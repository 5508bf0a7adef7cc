import ProxyGate.Text.Quoted

/-!
# Values with named parts

How a fault is shown with everything in it: its kind, and behind it one part in parentheses or
several parts under their names in braces.
-/

namespace ProxyGate.Text

/-- A kind with its named parts. -/
def record (kind : String) (parts : List (String × String)) : String :=
  let part : String × String → String := fun (name, value) => name ++ ": " ++ value
  kind ++ " \x7b " ++ ", ".intercalate (parts.map part) ++ " \x7d"

/-- A kind with one part. -/
def wrapped (kind part : String) : String :=
  kind ++ "(" ++ part ++ ")"

/-- A number among the parts. -/
def numeral (value : Nat) : String :=
  String.ofList (decimal value)

/-- A failure that the host reports by number. -/
def hostFault (code : Nat) (kind message : String) : String :=
  record "Os" [("code", numeral code), ("kind", kind), ("message", quote message)]

end ProxyGate.Text
