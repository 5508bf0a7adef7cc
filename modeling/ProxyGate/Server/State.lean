import ProxyGate.Connection.Guard
import ProxyGate.Connection.Origin
import ProxyGate.Metrics
import ProxyGate.Server.Startup
import ProxyGate.Shutdown

/-!
# A server at one moment

A server has its listeners, the clients that have come to them, and one shutdown signal.  Clients
are numbered as they come.  A client waits until its listener accepts it; then it is looked at for a
header, served, and cleaned up after.  All that is counted or logged, and every connection that was
handed to the handler, is kept as a record.

What happens, one event at a time, is in `ProxyGate.Server.Step`.
-/

namespace ProxyGate.Server

open Connection (Guard Origin)
open ProxyGate.Stream (Duplex Replay)

/-- What the accept loop of a listener is doing. -/
inductive Loop where
  /-- It waits for a free slot. -/
  | idle
  /-- It holds a slot and waits for a client. -/
  | holding
  | stopped
deriving DecidableEq, Repr

/-- One listener of a running server. -/
structure Listening where
  binding : Config.Binding
  /-- The slots that nobody holds. -/
  free : Nat
  loop : Loop := .idle
deriving DecidableEq, Repr

namespace Listening

/-- A listener that has just been opened. -/
def start (binding : Config.Binding) : Listening :=
  { binding, free := binding.maxConnections }

end Listening

/-- How a handler is done with a connection. -/
inductive Ending where
  | normal
  | error (reason : String)
  | crash
deriving DecidableEq, Repr

/-- What the end of its handler leaves in the log. -/
def Ending.entries : Ending → List Log.Entry
  | .error reason => [⟨.debug, "Connection error", [("error", reason)]⟩]
  | .normal | .crash => []

/-- What became of a connection. -/
inductive Outcome where
  /-- It opened with no header where one was demanded. -/
  | rejected (failure : Sniff.Failure)
  | served (origin : Origin) (ending : Ending)
deriving DecidableEq, Repr

/-- What is left to do for a connection that is over: first its guard is dropped, then its slot goes
back. -/
inductive Cleanup where
  | guarded
  | slotHeld
  | finished
deriving DecidableEq, Repr

/-- Where a client is. -/
inductive Stage where
  /-- It has not been accepted. -/
  | waiting (transport : Duplex)
  /-- It was not accepted before its listener was closed. -/
  | refused
  /-- It was accepted and is looked at for a header. -/
  | sniffing (guard : Guard) (progress : Sniff.Progress Duplex)
  /-- Its handler has it. -/
  | serving (guard : Guard) (origin : Origin) (stream : Replay Duplex)
  /-- It is over. -/
  | over (guard : Guard) (outcome : Outcome) (transport : Duplex) (cleanup : Cleanup)
deriving DecidableEq, Repr

namespace Stage

/-- Whether a client waits to be accepted. -/
def isWaiting : Stage → Bool
  | .waiting _ => true
  | _ => false

/-- Whether the server has closed the connection of a client. -/
def isEnded : Stage → Bool
  | .refused | .over _ _ _ _ => true
  | .waiting _ | .sniffing _ _ | .serving _ _ _ => false

/-- Whether a client holds a slot. -/
def holdsSlot : Stage → Bool
  | .sniffing _ _ | .serving _ _ _ | .over _ _ _ .guarded | .over _ _ _ .slotHeld => true
  | .waiting _ | .refused | .over _ _ _ .finished => false

/-- Whether a client has a guard that counts. -/
def isGuarded : Stage → Bool
  | .sniffing _ _ | .serving _ _ _ | .over _ _ _ .guarded => true
  | .waiting _ | .refused | .over _ _ _ .slotHeld | .over _ _ _ .finished => false

/-- Changes the transport of a client. -/
def mapTransport (f : Duplex → Duplex) : Stage → Stage
  | .waiting transport => .waiting (f transport)
  | .refused => .refused
  | .sniffing guard progress => .sniffing guard { progress with source := f progress.source }
  | .serving guard origin stream => .serving guard origin { stream with inner := f stream.inner }
  | .over guard outcome transport cleanup => .over guard outcome (f transport) cleanup

end Stage

/-- One client. -/
structure Visit where
  /-- The index of the listener that it came to. -/
  listener : Nat
  peer : Address.Socket
  stage : Stage
  /-- What its handler got from the stream, in order. -/
  answers : List Stream.Answer := []
deriving DecidableEq, Repr

/-- A client that has just come, and has sent nothing yet. -/
def Visit.start (listener : Nat) (peer : Address.Socket) : Visit :=
  { listener, peer, stage := .waiting { inlet := [] } }

/-- A connection as it was handed to the handler. -/
structure Handover where
  /-- The number of the client. -/
  client : Nat
  origin : Origin
  stream : Replay Duplex
deriving DecidableEq, Repr

end Server

/-- A running server. -/
structure Server where
  /-- The time limit for a header, in milliseconds. -/
  headerTimeout : Nat
  listeners : List Server.Listening
  visits : List Server.Visit := []
  /-- The number of guards that count. -/
  active : Nat := 0
  /-- The number of the next connection to be accepted. -/
  nextId : Nat := 1
  signal : Shutdown := {}
  /-- Whether the server has come to its end. -/
  returned : Bool := false
  metrics : Metrics := {}
  log : List Log.Entry := []
  handovers : List Server.Handover := []
deriving DecidableEq, Repr

namespace Server

/-- A server with the given listeners open. -/
def ofBindings (headerTimeout : Nat) (bindings : List Config.Binding) : Server :=
  { headerTimeout, listeners := bindings.map Listening.start }

/-- The server of a configuration, with its listeners open. -/
def start (config : Config) : Except StartFault Server := do
  return ofBindings config.headerTimeout (← bindings config)

section Host

variable {m : Type → Type} [Monad m]

/-- Asks a host for a listener; the host says where the listener really is, or why it cannot be
there. -/
def placeOn (place : Address.Socket → m (Except String Address.Socket)) (binding : Config.Binding) :
    m (Except String Config.Binding) := do
  return (← place binding.address).map fun address => { binding with address }

/-- The server of a configuration on a host. -/
def startOn (place : Address.Socket → m (Except String Address.Socket)) (config : Config) :
    m (Except OpenFault Server) := do
  return (← openOn (placeOn place) config).map (ofBindings config.headerTimeout)

end Host

end Server

end ProxyGate
