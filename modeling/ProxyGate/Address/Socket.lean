import ProxyGate.Address.Ip

/-!
# Socket addresses

An IP address with a port, and for IPv6 a scope.  The IPv6 text stands in brackets, with the scope
after a percent sign when it is not zero: `[fe80::1%3]:80`.
-/

namespace ProxyGate.Address

/-- Where a connection starts or ends. -/
inductive Socket where
  | v4 (ip : V4) (port : UInt16)
  | v6 (ip : V6) (port : UInt16) (scope : UInt32)
deriving DecidableEq, Repr

namespace Socket

/-- A socket address without a scope. -/
def ofIp : Ip → UInt16 → Socket
  | .v4 ip, port => .v4 ip port
  | .v6 ip, port => .v6 ip port 0

/-- The IP address. -/
def ip : Socket → Ip
  | .v4 ip _ => .v4 ip
  | .v6 ip _ _ => .v6 ip

/-- The port. -/
def port : Socket → UInt16
  | .v4 _ port => port
  | .v6 _ port _ => port

/-- The scope; IPv4 has none. -/
def scope? : Socket → Option UInt32
  | .v4 _ _ => none
  | .v6 _ _ scope => some scope

/-- The text after a percent sign that names a scope; nothing for scope zero. -/
def scopeChars (scope : UInt32) : List Char :=
  if scope = 0 then [] else '%' :: Text.decimal scope.toNat

/-- The text of a socket address. -/
def chars : Socket → List Char
  | .v4 ip port => ip.chars ++ ':' :: Text.decimal port.toNat
  | .v6 ip port scope =>
    '[' :: ip.chars ++ scopeChars scope ++ ']' :: ':' :: Text.decimal port.toNat

/-- The text of a socket address, as a string. -/
def text (address : Socket) : String :=
  String.ofList address.chars

/-- A port after its colon, to the end of the text. -/
def colonPort? : List Char → Option UInt16
  | ':' :: digits => Text.portOf? digits
  | _ => none

/-- A scope after its percent sign; no text means scope zero. -/
def scopeOf? : List Char → Option UInt32
  | [] => some 0
  | '%' :: digits => ((Text.natOf? 10 digits).bind (Text.atMost? 4294967295)).map UInt32.ofNat
  | _ => none

/-- Reads an IPv4 address with its port. -/
def ofCharsV4? (chars : List Char) : Option Socket := do
  let ip ← V4.ofChars? (chars.takeWhile (· ≠ ':'))
  let port ← colonPort? (chars.dropWhile (· ≠ ':'))
  return .v4 ip port

/-- Reads an IPv6 address in brackets with its port. -/
def ofCharsV6? : List Char → Option Socket
  | '[' :: chars => do
    let inside := chars.takeWhile (· ≠ ']')
    let ip ← V6.ofChars? (inside.takeWhile (· ≠ '%'))
    let scope ← scopeOf? (inside.dropWhile (· ≠ '%'))
    let port ← colonPort? (chars.dropWhile (· ≠ ']')).tail
    return .v6 ip port scope
  | _ => none

/-- Reads a socket address. -/
def ofChars? (chars : List Char) : Option Socket :=
  (ofCharsV4? chars).or (ofCharsV6? chars)

/-- Reads a socket address from a string. -/
def ofText? (text : String) : Option Socket :=
  ofChars? text.toList

end Socket

end ProxyGate.Address
