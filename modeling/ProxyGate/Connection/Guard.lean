import ProxyGate.Connection.Origin
import ProxyGate.Log
import ProxyGate.Sniff.Report

/-!
# The life of a connection

From its acceptance to its end every connection is watched by a guard, which has a number of its own
and the phase that the connection is in:

* where a header is demanded, from `awaitingHeader` to `headerParsed` and on to `streaming`, or from
  `awaitingHeader` to `failed`;
* elsewhere, from `unchecked` to `streaming`.

A guard that is asked for any other change stays as it is and leaves a warning in the log.
-/

namespace ProxyGate.Connection

/-- Where a connection is in its life. -/
inductive Phase where
  /-- Accepted where no header is looked for. -/
  | unchecked
  /-- Accepted where a header is demanded, which has not come yet. -/
  | awaitingHeader
  /-- The header has been read. -/
  | headerParsed
  /-- The connection is with its handler. -/
  | streaming
  /-- No header was found. -/
  | failed
deriving DecidableEq, Repr

namespace Phase

/-- The name of a phase in the log. -/
def name : Phase → String
  | .unchecked => "Unchecked"
  | .awaitingHeader => "AwaitingHeader"
  | .headerParsed => "HeaderParsed"
  | .streaming => "Streaming"
  | .failed => "Failed"

/-- Every phase. -/
def all : List Phase := [.unchecked, .awaitingHeader, .headerParsed, .streaming, .failed]

/-- The phase that a name stands for. -/
def ofName? (name : String) : Option Phase :=
  all.find? (·.name = name)

/-- The phase of a connection that has just been accepted. -/
def initial : Policy → Phase
  | .disabled => .unchecked
  | .required => .awaitingHeader

/-- Whether a connection may go from one phase to another. -/
def canBecome : Phase → Phase → Bool
  | .unchecked, .streaming
  | .awaitingHeader, .headerParsed
  | .awaitingHeader, .failed
  | .headerParsed, .streaming => true
  | _, _ => false

end Phase

/-- The watch over one connection. -/
structure Guard where
  id : Nat
  phase : Phase
deriving DecidableEq, Repr

namespace Guard

/-- The guard of a connection that has just been accepted. -/
def start (id : Nat) (policy : Policy) : Guard := ⟨id, .initial policy⟩

/-- The name of its connection in an entry. -/
def idField (guard : Guard) : String × String := ("connection_id", Origin.idText guard.id)

/-- The entry for a change of phase that was asked for. -/
def changeEntry (guard : Guard) (phase : Phase) : Log.Entry :=
  let fields := [guard.idField, ("from", guard.phase.name), ("to", phase.name)]
  if guard.phase.canBecome phase then ⟨.trace, "Connection state", fields⟩
  else ⟨.warn, "Invalid connection state transition", fields⟩

/-- Asks for a change of phase: the guard after it, and the entry that it leaves. -/
def change (guard : Guard) (phase : Phase) : Guard × Log.Entry :=
  (if guard.phase.canBecome phase then { guard with phase } else guard,
    guard.changeEntry phase)

/-- The entry for the end of a connection. -/
def closedEntry (guard : Guard) : Log.Entry :=
  ⟨.trace, "Connection closed", [guard.idField, ("state", guard.phase.name)]⟩

end Guard

end ProxyGate.Connection
