import ProxyGate.Config.Problem

/-!
# Why a listener cannot be opened

The host keeps each address for one listener, and slots are counted only up to a limit.  The limit
is checked first: a listener beyond it never asks the host for its address.
-/

namespace ProxyGate.Listener

/-- Why a listener cannot be opened. -/
inductive Fault where
  /-- The limit on connections is beyond what can be counted. -/
  | limit (value : Nat)
  /-- Another listener has the address. -/
  | addressInUse
deriving DecidableEq, Repr

/-- The sentence that reports why a listener cannot be opened. -/
def Fault.message : Fault → String
  | .limit value =>
    let number (value : Nat) : String := String.ofList (Text.decimal value)
    "max_connections " ++ number value ++ " exceeds the limit of " ++ number Config.slotLimit
  | .addressInUse => "Failed to bind: Address already in use (os error 98)"

/-- Opens a listener with a limit on connections, as far as the limit decides. -/
def checkLimit (maxConnections : Nat) : Except Fault Unit :=
  if Config.slotLimit < maxConnections then .error (.limit maxConnections) else .ok ()

end ProxyGate.Listener
