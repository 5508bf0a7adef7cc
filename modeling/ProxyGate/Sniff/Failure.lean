import ProxyGate.Header.Fault
import ProxyGate.Text.Duration

/-!
# Why no header was found

The ways in which looking for a header at the start of a connection ends without one.
-/

namespace ProxyGate.Sniff

/-- Why a connection gave no header. -/
inductive Failure where
  /-- The time limit, in milliseconds, passed first. -/
  | timeout (limit : Nat)
  /-- The data ended inside the header. -/
  | closed (received : Nat)
  /-- The bytes are no header. -/
  | refused (fault : Header.Fault)
  /-- A read failed. -/
  | io (reason : String)
deriving DecidableEq, Repr

namespace Failure

/-- The sentence that reports a failure. -/
def message : Failure → String
  | .timeout limit => "no complete PROXY header within " ++ Text.duration limit
  | .closed received =>
    "connection closed after " ++ String.ofList (Text.decimal received) ++
      " bytes, before the PROXY header ended"
  | .refused fault => fault.message
  | .io reason => "IO error reading PROXY header: " ++ reason

/-- The label under which a failure is counted. -/
def label : Failure → String
  | .timeout _ => "timeout"
  | .closed _ => "closed"
  | .refused fault => fault.label
  | .io _ => "io"

end Failure

end ProxyGate.Sniff
