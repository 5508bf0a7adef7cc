import ProxyGate.Server.State

/-!
# What happens at a server

A run of a server is a list of events, each of which is possible only in some states: `step?` gives
the state after an event, or none when the event is not possible.  Clients connect and send, the
accept loops claim slots and accept or fail to, connections are looked at for a header read by read,
the handler uses and finishes what it was handed, and the shutdown signal stops the loops.  Events
of different clients and listeners may come in any order.
-/

namespace ProxyGate.Server

open Connection (Guard Origin Phase)
open ProxyGate.Stream (Duplex Replay)

/-- One thing that happens. -/
inductive Event where
  /-- A client connects to a listener. -/
  | connect (listener : Nat) (peer : Address.Socket)
  /-- Something comes from a client, or is known to come after some time. -/
  | arrive (client : Nat) (step : Stream.Step)
  /-- The accept loop of a listener claims a slot. -/
  | claim (listener : Nat)
  /-- The accept loop of a listener accepts the client that has waited longest. -/
  | accept (listener : Nat)
  /-- The host gives the accept loop of a listener no client, and says why. -/
  | failAccept (listener : Nat) (reason : String)
  /-- A connection is read once in search of its header. -/
  | look (client : Nat)
  /-- The handler uses the stream of a connection. -/
  | use (client : Nat) (operation : Stream.Operation)
  /-- The handler is done with a connection. -/
  | finish (client : Nat) (ending : Ending)
  | dropGuard (client : Nat)
  | giveBack (client : Nat)
  /-- The shutdown is triggered. -/
  | trigger
  /-- The coordinator of the shutdown goes away. -/
  | dropCoordinator
  /-- The accept loop of a listener sees the shutdown signal. -/
  | stop (listener : Nat)
  /-- The server sees that every loop has stopped. -/
  | leave
deriving DecidableEq, Repr

/-! ## Listeners -/

namespace Listening

/-- Claims a slot for the next client. -/
def claim? (listening : Listening) : Option Listening :=
  if listening.loop = .idle ∧ 0 < listening.free then
    some { listening with free := listening.free - 1, loop := .holding }
  else none

/-- Passes the claimed slot on to a client. -/
def pass? (listening : Listening) : Option Listening :=
  if listening.loop = .holding then some { listening with loop := .idle } else none

/-- Takes a slot back from a client. -/
def takeBack (listening : Listening) : Listening :=
  { listening with free := listening.free + 1 }

/-- Takes the claimed slot back without a client. -/
def giveUp? (listening : Listening) : Option Listening :=
  if listening.loop = .holding then some { listening.takeBack with loop := .idle } else none

/-- Stops the accept loop, which gives back the slot it may hold. -/
def stop? (listening : Listening) : Option Listening :=
  match listening.loop with
  | .idle => some { listening with loop := .stopped }
  | .holding => some { listening.takeBack with loop := .stopped }
  | .stopped => none

end Listening

/-! ## Looking for a header -/

/-- What one read in search of a header comes to. -/
inductive Look where
  | more (progress : Sniff.Progress Duplex)
  | rejected (failure : Sniff.Failure) (transport : Duplex)
  | accepted (header : Option Header) (stream : Replay Duplex)
deriving DecidableEq, Repr

/-- What an ended search comes to. -/
def Look.ofSearch (search : Sniff.Progress Duplex) (outcome : Except Sniff.Failure Nat) : Look :=
  match Sniff.conclude search outcome with
  | .error failure => .rejected failure search.source
  | .ok found => .accepted found.header found.stream

/-- Reads a connection once in search of its header; where none is looked for, nothing is read. -/
def Look.once (limit : Nat) (progress : Sniff.Progress Duplex) : Policy → Look
  | .disabled => .accepted none (Replay.direct progress.source)
  | .required =>
    match Sniff.step Duplex.read limit progress with
    | .reading next => .more next
    | .ended last outcome => .ofSearch last outcome

/-- Whether a read would be answered by what has come so far. -/
def canLook (progress : Sniff.Progress Duplex) : Policy → Bool
  | .disabled => true
  | .required => progress.source.inlet.isReady

/-- The entry for a connection that was rejected. -/
def rejectionEntry (failure : Sniff.Failure) : Log.Entry :=
  let fields := [("error", failure.message)]
  if failure = .closed 0 then
    ⟨.debug, "Connection closed before sending a PROXY header", fields⟩
  else ⟨.warn, "Closing connection: PROXY header rejected", fields⟩

/-- The entry for a client that could not be accepted. -/
def acceptEntry (address : Address.Socket) (reason : String) : Log.Entry :=
  ⟨.error, "Accept error", [("address", address.text), ("error", "Failed to accept: " ++ reason)]⟩

/-- Asks a guard for several changes of phase. -/
def changeAll (guard : Guard) : List Phase → Guard × List Log.Entry
  | [] => (guard, [])
  | phase :: rest =>
    let (changed, entry) := guard.change phase
    let (last, entries) := changeAll changed rest
    (last, entry :: entries)

/-- The phases on the way to the handler. -/
def phasesTo : Policy → List Phase
  | .disabled => [.streaming]
  | .required => [.headerParsed, .streaming]

/-- The entry for a header that was read. -/
def headerEntries (stream : Replay Duplex) : Option Header → List Log.Entry
  | none => []
  | some header => [Sniff.acceptedEntry header stream.held.length]

/-! ## Clients -/

/-- The server with a client at another stage. -/
def setStage (server : Server) (client : Nat) (stage : Stage) : Server :=
  { server with visits := server.visits.modify client fun visit => { visit with stage } }

/-- The client of a listener that has waited longest. -/
def firstWaiting? (server : Server) (listener : Nat) : Option Nat :=
  server.visits.findIdx? fun visit => visit.listener = listener && visit.stage.isWaiting

/-- Accepts a client, with a slot that was claimed for it. -/
def welcome (server : Server) (client : Nat) (policy : Policy) (transport : Duplex) : Server :=
  let guard := Guard.start server.nextId policy
  { server.setStage client (.sniffing guard (.start transport)) with
    active := server.active + 1
    nextId := server.nextId + 1
    metrics := server.metrics.opened policy }

/-- Ends a connection without a header. -/
def reject (server : Server) (client : Nat) (guard : Guard) (failure : Sniff.Failure)
    (transport : Duplex) : Server :=
  let (guard, entry) := guard.change .failed
  { server.setStage client (.over guard (.rejected failure) transport .guarded) with
    metrics := server.metrics.searched (some failure.label)
    log := server.log ++ [entry, rejectionEntry failure] }

/-- Hands a connection to the handler. -/
def handOver (server : Server) (client : Nat) (guard : Guard) (policy : Policy) (origin : Origin)
    (stream : Replay Duplex) : Server :=
  let (guard, entries) := changeAll guard (phasesTo policy)
  { server.setStage client (.serving guard origin stream) with
    metrics := if policy.isRequired then server.metrics.searched none else server.metrics
    log := server.log ++ headerEntries stream origin.header ++ entries
    handovers := server.handovers ++ [⟨client, origin, stream⟩] }

/-- Looks at a connection once. -/
def look (server : Server) (client : Nat) (visit : Visit) (binding : Config.Binding) (guard : Guard)
    (progress : Sniff.Progress Duplex) : Server :=
  match Look.once server.headerTimeout progress binding.policy with
  | .more next => server.setStage client (.sniffing guard next)
  | .rejected failure transport => server.reject client guard failure transport
  | .accepted header stream =>
    server.handOver client guard binding.policy ⟨guard.id, visit.peer, binding.address, header⟩
      stream

/-- Lets the handler use a stream. -/
def use (server : Server) (client : Nat) (guard : Guard) (origin : Origin) (stream : Replay Duplex)
    (operation : Stream.Operation) : Server :=
  let (answer, next) := stream.step operation
  { server with
    visits := server.visits.modify client fun visit =>
      { visit with stage := .serving guard origin next, answers := visit.answers ++ [answer] } }

/-- Lets the handler be done with a connection. -/
def finish (server : Server) (client : Nat) (guard : Guard) (origin : Origin)
    (stream : Replay Duplex) (ending : Ending) : Server :=
  { server.setStage client (.over guard (.served origin ending) stream.inner .guarded) with
    log := server.log ++ ending.entries }

/-- Drops the guard of a connection that is over. -/
def dropGuard (server : Server) (client : Nat) (guard : Guard) (outcome : Outcome)
    (transport : Duplex) : Server :=
  { server.setStage client (.over guard outcome transport .slotHeld) with
    active := server.active - 1
    metrics := server.metrics.closed
    log := server.log ++ [guard.closedEntry] }

/-- Gives back the slot of a connection that is over. -/
def giveBack (server : Server) (client : Nat) (visit : Visit) (guard : Guard) (outcome : Outcome)
    (transport : Duplex) : Server :=
  { server.setStage client (.over guard outcome transport .finished) with
    listeners := server.listeners.modify visit.listener Listening.takeBack }

/-- Turns away the clients that wait at a listener. -/
def turnAway (server : Server) (listener : Nat) : Server :=
  { server with
    visits := server.visits.map fun visit =>
      if visit.listener = listener ∧ visit.stage.isWaiting then { visit with stage := .refused }
      else visit }

/-- The entry for the end of a server. -/
def leaveEntry (server : Server) : Log.Entry :=
  ⟨.info, "All listeners stopped",
    [("active_connections", String.ofList (Text.decimal server.active))]⟩

/-! ## Events -/

/-- Whether a listener can still be connected to. -/
def isOpen (server : Server) (listener : Nat) : Bool :=
  match server.listeners[listener]? with
  | some listening => listening.loop ≠ .stopped
  | none => false

/-- The state after an event, if the event is possible. -/
def step? (server : Server) : Event → Option Server
  | .connect listener peer =>
    if server.isOpen listener then
      some { server with visits := server.visits ++ [.start listener peer] }
    else none
  | .arrive client step => do
    discard server.visits[client]?
    return { server with
      visits := server.visits.modify client fun visit =>
        { visit with stage := visit.stage.mapTransport (·.push step) } }
  | .claim listener => do
    let listening ← (← server.listeners[listener]?).claim?
    return { server with listeners := server.listeners.set listener listening }
  | .accept listener => do
    let listening ← server.listeners[listener]?
    let client ← server.firstWaiting? listener
    match (← server.visits[client]?).stage with
    | .waiting transport =>
      let passed ← listening.pass?
      let next := { server with listeners := server.listeners.set listener passed }
      return next.welcome client listening.binding.policy transport
    | _ => none
  | .failAccept listener reason => do
    let listening ← server.listeners[listener]?
    return { server with
      listeners := server.listeners.set listener (← listening.giveUp?)
      log := server.log ++ [acceptEntry listening.binding.address reason] }
  | .look client => do
    let visit ← server.visits[client]?
    let binding := (← server.listeners[visit.listener]?).binding
    match visit.stage with
    | .sniffing guard progress =>
      if canLook progress binding.policy then
        return server.look client visit binding guard progress
      else none
    | _ => none
  | .use client operation => do
    match (← server.visits[client]?).stage with
    | .serving guard origin stream =>
      if stream.isReady operation then return server.use client guard origin stream operation
      else none
    | _ => none
  | .finish client ending => do
    match (← server.visits[client]?).stage with
    | .serving guard origin stream => return server.finish client guard origin stream ending
    | _ => none
  | .dropGuard client => do
    match (← server.visits[client]?).stage with
    | .over guard outcome transport .guarded =>
      return server.dropGuard client guard outcome transport
    | _ => none
  | .giveBack client => do
    let visit ← server.visits[client]?
    match visit.stage with
    | .over guard outcome transport .slotHeld =>
      return server.giveBack client visit guard outcome transport
    | _ => none
  | .trigger =>
    if server.signal.coordinated then
      some { server with signal := (server.signal.step .trigger).2 }
    else none
  | .dropCoordinator =>
    if server.signal.coordinated then
      some { server with signal := (server.signal.step .dropCoordinator).2 }
    else none
  | .stop listener => do
    let listening ← (← server.listeners[listener]?).stop?
    if server.signal.isOver then
      return { server with listeners := server.listeners.set listener listening }.turnAway listener
    else none
  | .leave =>
    if !server.returned ∧ ∀ listening ∈ server.listeners, listening.loop = .stopped then
      some { server with returned := true, log := server.log ++ [server.leaveEntry] }
    else none

/-- The state after events in order, if each of them is possible. -/
def run? (server : Server) (events : List Event) : Option Server :=
  events.foldlM step? server

end ProxyGate.Server
