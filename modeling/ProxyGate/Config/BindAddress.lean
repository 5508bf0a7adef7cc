import ProxyGate.Address.Socket
import ProxyGate.Sniff.Report
import ProxyGate.Text.Quoted

/-!
# Bind addresses

Where a listener waits for connections, as a configuration writes it: `<host>:<port>`, where the
host is an IPv4 address, an IPv6 address in brackets, or empty for every IPv4 interface.  The marker
`|P` at the end demands a header on every connection; it is read once.
-/

namespace ProxyGate

/-- A bind address as written. -/
structure BindAddress where
  address : Address.Socket
  /-- Whether the marker stands at the end. -/
  marked : Bool
deriving DecidableEq, Repr

namespace BindAddress

/-- The ending that demands a header. -/
def marker : List Char := ['|', 'P']

/-- Why a text is no bind address. -/
inductive Cause where
  /-- The host is empty and this text is no port. -/
  | port (text : String)
  /-- The text is no socket address. -/
  | address
deriving DecidableEq, Repr

/-- The words for a cause. -/
def Cause.message : Cause → String
  | .port text => "port " ++ Text.quote text ++ " is not in 0..=65535"
  | .address => "invalid socket address syntax"

/-- A text that is no bind address. -/
structure Fault where
  /-- The whole text, marker included. -/
  text : String
  cause : Cause
deriving DecidableEq, Repr

/-- The sentence that reports a fault. -/
def Fault.message (fault : Fault) : String :=
  "invalid bind address " ++ Text.quote fault.text ++ ": " ++ fault.cause.message

/-- A port on its own: digits, and a plus sign before them is allowed. -/
def signedPort? : List Char → Option UInt16
  | '+' :: digits => Text.portOf? digits
  | digits => Text.portOf? digits

/-- Takes the marker off. -/
def cutMarker (text : List Char) : List Char × Bool :=
  match Text.dropEnding? marker text with
  | some kept => (kept, true)
  | none => (text, false)

/-- Reads what stands before the marker. -/
def parseAddress : List Char → Except Cause Address.Socket
  | ':' :: port =>
    match signedPort? port with
    | some value => .ok (.v4 .unspecified value)
    | none => .error (.port (String.ofList port))
  | text =>
    match Address.Socket.ofChars? text with
    | some address => .ok address
    | none => .error .address

/-- Reads a bind address. -/
def parse (text : String) : Except Fault BindAddress :=
  let (kept, marked) := cutMarker text.toList
  match parseAddress kept with
  | .ok address => .ok ⟨address, marked⟩
  | .error cause => .error ⟨text, cause⟩

end BindAddress

end ProxyGate
