import ProxyGate.Config.Load
import ProxyGate.Server.Startup
import ProxyGate.Text.Record

/-!
# Faults in detail

When a command fails, its last words show the fault with everything in it: the kind, and each part
under its name, with texts quoted.
-/

namespace ProxyGate

/-- A bind address that cannot be read, in detail. -/
def BindAddress.Fault.detail (fault : BindAddress.Fault) : String :=
  Text.record "BindAddressError"
    [("address", Text.quote fault.text), ("reason", Text.quote fault.cause.message)]

/-- A problem of a configuration, in detail. -/
def Config.Problem.detail : Config.Problem → String
  | .noListeners => "NoListeners"
  | .badAddress index fault =>
    Text.record "BindAddress" [("index", Text.numeral index), ("source", fault.detail)]
  | .sameAddress index address =>
    Text.record "DuplicateBindAddress"
      [("index", Text.numeral index), ("address", address.text)]
  | .noConnections index => Text.record "ZeroMaxConnections" [("index", Text.numeral index)]
  | .tooManyConnections index =>
    Text.record "MaxConnectionsTooLarge" [("index", Text.numeral index)]
  | .noHeaderTime => "ZeroHeaderTimeout"
  | .badMetricsAddress text => Text.wrapped "MetricsAddress" (Text.quote text)

/-- A file that gives no text, in detail. -/
def Config.FileFault.detail : Config.FileFault → String
  | .missing => Text.hostFault 2 "NotFound" "No such file or directory"
  | .notText =>
    Text.record "Error"
      [("kind", "InvalidData"), ("message", Text.quote Config.FileFault.notText.message)]

/-- Why there is no configuration, in detail. -/
def Config.LoadFault.detail : Config.LoadFault → String
  | .file fault => Text.wrapped "Io" fault.detail
  | .shape => "Parse"
  | .invalid problems =>
    Text.wrapped "Validation" ("[" ++ ", ".intercalate (problems.map Config.Problem.detail) ++ "]")

/-- Why a listener cannot be opened, in detail. -/
def Listener.Fault.detail : Listener.Fault → String
  | .limit value => Text.wrapped "ConnectionLimit" (Text.numeral value)
  | .addressInUse => Text.wrapped "Bind" (Text.hostFault 98 "AddrInUse" "Address already in use")

/-- Why a server does not start, in detail. -/
def Server.StartFault.detail : Server.StartFault → String
  | .badAddress index fault =>
    Text.record "BindAddress" [("index", Text.numeral index), ("source", fault.detail)]
  | .badListener address fault =>
    Text.record "Listener" [("address", address.text), ("source", fault.detail)]

end ProxyGate
