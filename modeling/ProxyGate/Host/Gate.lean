import ProxyGate.Command.Launch
import ProxyGate.Host.Socket
import ProxyGate.Http.Session
import ProxyGate.Server.Step
import Std.Async.Signal
import Std.Sync.Semaphore

/-!
# The gate on the host's network

Opens the listeners of a configuration, accepts connections while slots are free, and serves each of
them on its own until the process is told to stop.  What a connection opens with, what is answered,
and what is logged is decided by the modules of the library; this one only carries bytes.
-/

namespace ProxyGate.Host

open Connection (Guard Origin Phase)
open Std.Async

/-- What the connections of a gate share. -/
structure Gate where
  headerTimeout : Nat
  /-- The lowest level that the log shows. -/
  logLevel : Log.Level
  nextId : IO.Ref Nat

/-- An opened listener. -/
structure Opened where
  server : TCP.Socket.Server
  binding : Config.Binding
  slots : Std.Semaphore

/-- Writes an entry to the log, if the log shows it. -/
def Gate.log (gate : Gate) (entry : Log.Entry) : IO Unit :=
  if gate.logLevel.isShown entry.level then IO.println entry.line else pure ()

/-- Reads a connection until the search for its header ends. -/
partial def search (client : TCP.Socket.Client) (limit : Nat) (progress : Sniff.Progress Unit) :
    Async (Sniff.Report Unit) := do
  let pull ← read client progress.room (limit - progress.elapsed)
  match Sniff.step (fun _ _ => pull) limit progress with
  | .reading next => search client limit next
  | .ended last outcome => return .ofSearch (last, outcome)

/-- Looks for the header of a connection as its listener's policy says. -/
def sniff (client : TCP.Socket.Client) (limit : Nat) : Policy → Async (Sniff.Report Unit)
  | .disabled => pure (Sniff.sniff (fun _ _ => .never) limit () .disabled)
  | .required => search client limit (.start ())

/-- The room for one read of requests. -/
def requestRoom : Nat := 4096

/-- Answers requests until the exchange or the client's data is at its end; `bytes` have come so
far, and the first `done` bytes of what is to be sent have been sent. -/
partial def converse (client : TCP.Socket.Client) (origin : Origin) (bytes : Bytes) (done : Nat) :
    Async Unit := do
  let exchange := Http.exchange (Http.answer (some origin)) bytes
  let wire := exchange.wire
  send client (wire.drop done)
  if exchange.closed then client.shutdown
  else
    match ← client.recv? (.ofNat requestRoom) with
    | none => client.shutdown
    | some more => converse client origin (bytes ++ more.toList) wire.length

/-- Asks a guard for changes of phase, and logs them. -/
def change (gate : Gate) (guard : Guard) (phases : List Phase) : IO Guard := do
  let (changed, entries) := Server.changeAll guard phases
  entries.forM gate.log
  return changed

/-- Hands an accepted connection to the exchange of requests. -/
def handOver (gate : Gate) (client : TCP.Socket.Client) (guard : Guard)
    (accepted : Sniff.Accepted Unit) : Async Unit := do
  try
    let peer := ofAddress (← client.getPeerName)
    let here := ofAddress (← client.getSockName)
    converse client ⟨guard.id, peer, here, accepted.header⟩ accepted.stream.held 0
  catch failure =>
    (Server.Ending.error (toString failure)).entries.forM (gate.log ·)

/-- Serves an accepted connection to its end; gives its guard as it is then. -/
def serve (gate : Gate) (listener : Opened) (client : TCP.Socket.Client) (guard : Guard) :
    Async Guard := do
  let report ← sniff client gate.headerTimeout listener.binding.policy
  for entry in report.entries do gate.log entry
  match report.result with
  | .error failure =>
    let failed ← change gate guard [.failed]
    gate.log (Server.rejectionEntry failure)
    return failed
  | .ok accepted =>
    let streaming ← change gate guard (Server.phasesTo listener.binding.policy)
    handOver gate client streaming accepted
    return streaming

/-- Serves an accepted connection and gives its slot back. -/
def attend (gate : Gate) (listener : Opened) (client : TCP.Socket.Client) (id : Nat) :
    Async Unit := do
  try
    let last ← serve gate listener client (.start id listener.binding.policy)
    gate.log last.closedEntry
  finally
    listener.slots.release

/-- How long the gate waits, in milliseconds, after a connection could not be accepted. -/
def acceptPause : Nat := 100

/-- Accepts one connection with a slot of its own, and serves it in the background. -/
def acceptOne (gate : Gate) (listener : Opened) : Async Unit := do
  let slot ← listener.slots.acquire
  await slot
  try
    let client ← listener.server.accept
    let id ← gate.nextId.modifyGet fun id => (id, id + 1)
    background (attend gate listener client id)
  catch failure =>
    gate.log (Server.acceptEntry listener.binding.address (toString failure))
    listener.slots.release
    (← Sleep.mk (.ofNat acceptPause)).wait

/-- Accepts connections for ever. -/
partial def acceptLoop (gate : Gate) (listener : Opened) : Async Unit := do
  acceptOne gate listener
  acceptLoop gate listener

/-- The backlog of a listener. -/
def backlog : UInt32 := 1024

/-- Opens a listener. -/
def openOne (binding : Config.Binding) : IO Opened := do
  let server ← TCP.Socket.Server.mk
  server.bind (addressOf binding.address)
  server.listen backlog
  let address := ofAddress (← server.getSockName)
  return ⟨server, { binding with address }, ← Std.Semaphore.new binding.maxConnections⟩

/-- Opens a listener, or says why it cannot be opened. -/
def tryOpen (binding : Config.Binding) : IO (Except String Opened) := do
  try
    return .ok (← openOne binding)
  catch
    | .resourceBusy _ _ =>
      return .error (Command.LaunchFault.noStart
        (.badListener binding.address .addressInUse)).lastWords
    | failure => return .error ("Error: " ++ toString failure)

/-- Waits until the process is told to stop. -/
def waitForStop : Async Unit := do
  let interrupt ← Signal.Waiter.mk .sigint false
  let terminate ← Signal.Waiter.mk .sigterm false
  Selectable.one #[.case interrupt.selector pure, .case terminate.selector pure]

/-- Runs the gate with open listeners until the process is told to stop. -/
def runOpened (config : Config) (opened : List Opened) : Async Unit := do
  let addresses := ", ".intercalate (opened.map fun listener => listener.binding.address.text)
  let level := (Log.Level.ofWord? config.observability.logLevel).getD .error
  let gate : Gate := ⟨config.headerTimeout, level, ← IO.mkRef 1⟩
  gate.log ⟨.info, "Listening for connections", [("addresses", "[" ++ addresses ++ "]")]⟩
  for listener in opened do background (acceptLoop gate listener)
  waitForStop
  gate.log ⟨.info, "Shutdown signal received", []⟩
  gate.log ⟨.info, "Shutdown complete", []⟩

/-- Runs the gate with a configuration; gives the exit code. -/
def run (config : Config) : IO UInt32 := do
  match ← Server.openOn tryOpen config with
  | .error (.start fault) =>
    IO.eprintln (Command.LaunchFault.noStart fault).lastWords
    return 1
  | .error (.host _ words) =>
    IO.eprintln words
    return 1
  | .ok opened =>
    (runOpened config opened).block
    return 0

end ProxyGate.Host
