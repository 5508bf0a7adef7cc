import ProxyGate.Text.Digits

/-!
# IPv4 addresses

Four octets and their dotted text.  The reader is strict: four decimal numbers of one to three
digits, none above 255, none with a leading zero.
-/

namespace ProxyGate.Address

/-- An IPv4 address, most significant octet first. -/
structure V4 where
  a : UInt8
  b : UInt8
  c : UInt8
  d : UInt8
deriving DecidableEq, Repr

namespace V4

/-- The address that stands for every interface. -/
def unspecified : V4 := ⟨0, 0, 0, 0⟩

/-- The dotted text of an address. -/
def chars (ip : V4) : List Char :=
  List.intercalate ['.'] ([ip.a, ip.b, ip.c, ip.d].map fun octet => Text.decimal octet.toNat)

/-- The dotted text of an address, as a string. -/
def text (ip : V4) : String :=
  String.ofList ip.chars

/-- One number of a dotted address. -/
def octet? (digits : List Char) : Option UInt8 :=
  if 3 < digits.length ∨ (digits.head? = some '0' ∧ digits ≠ ['0']) then none
  else ((Text.natOf? 10 digits).bind (Text.atMost? 255)).map UInt8.ofNat

/-- Reads a dotted address. -/
def ofChars? (chars : List Char) : Option V4 :=
  match (chars.splitOn '.').mapM octet? with
  | some [a, b, c, d] => some ⟨a, b, c, d⟩
  | _ => none

end V4

end ProxyGate.Address
