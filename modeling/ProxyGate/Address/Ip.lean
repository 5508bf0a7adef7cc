import ProxyGate.Address.V6

/-!
# IP addresses of either version

The two versions have no text in common, a colon being in every IPv6 text and in no IPv4 text, so
the text of an address says its version.
-/

namespace ProxyGate.Address

/-- An IP address. -/
inductive Ip where
  | v4 (ip : V4)
  | v6 (ip : V6)
deriving DecidableEq, Repr

namespace Ip

/-- The text of an address. -/
def chars : Ip → List Char
  | .v4 ip => ip.chars
  | .v6 ip => ip.chars

/-- The text of an address, as a string. -/
def text (ip : Ip) : String :=
  String.ofList ip.chars

/-- Reads an address of either version. -/
def ofChars? (chars : List Char) : Option Ip :=
  match V4.ofChars? chars with
  | some ip => some (.v4 ip)
  | none => (V6.ofChars? chars).map .v6

/-- Reads an address of either version from a string. -/
def ofText? (text : String) : Option Ip :=
  ofChars? text.toList

end Ip

end ProxyGate.Address
