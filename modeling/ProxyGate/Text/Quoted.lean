import ProxyGate.Text.Digits
import ProxyGate.Text.Hidden

/-!
# Quoted text

How a message shows a text it cannot trust: between double quotes, with every character that could
end the quotation, break the line or pass unseen replaced by an escape.  The result of `quoted`
holds no control character, whatever the text.
-/

namespace ProxyGate.Text

/-- A character inside a quotation. -/
def quotedChar (c : Char) : List Char :=
  if c = '"' then ['\\', '"']
  else if c = '\\' then ['\\', '\\']
  else if c = '\n' then ['\\', 'n']
  else if c = '\r' then ['\\', 'r']
  else if c = '\t' then ['\\', 't']
  else if c.toNat = 0 then ['\\', '0']
  else if 0x20 ≤ c.toNat ∧ c.toNat ≤ 0x7E then [c]
  else if c.toNat < 0x20 ∨ isHidden c then ['\\', 'u', '{'] ++ hexadecimal c.toNat ++ ['}']
  else [c]

/-- A text between double quotes, on one line and unambiguous. -/
def quoted (text : List Char) : List Char :=
  '"' :: text.flatMap quotedChar ++ ['"']

/-- A text between double quotes, as a string. -/
def quote (text : String) : String :=
  String.ofList (quoted text.toList)

end ProxyGate.Text
