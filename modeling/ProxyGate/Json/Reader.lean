import ProxyGate.Json
import ProxyGate.Text.Scanner

/-!
# Reading JSON

The values that reports are made of: null, truth values, natural numbers, texts, lists and objects,
with blanks between them as the format allows.  Other numbers are not read.
-/

namespace ProxyGate.Json

open Text (Scanner)
open Text.Scanner

/-- Takes blanks and line ends. -/
def blanks : Scanner Unit := do
  discard (run fun c => c = ' ' || c = '\t' || c = '\n' || c = '\r')

/-- Takes a character with the blanks behind it. -/
def mark (c : Char) : Scanner Unit :=
  char c *> blanks

/-! ## Texts -/

/-- Takes a number of four hexadecimal digits. -/
def codeUnit : Scanner Nat := do
  StateT.lift (Text.natOf? 16 (← exactly 4))

/-- Takes the number of a character: one code unit, or the two of a surrogate pair. -/
def escapedNumber : Scanner Nat := do
  let high ← codeUnit
  if 0xD800 ≤ high ∧ high < 0xDC00 then
    chars ['\\', 'u']
    let low ← codeUnit
    guard (0xDC00 ≤ low ∧ low < 0xE000)
    return 0x10000 + (high - 0xD800) * 0x400 + (low - 0xDC00)
  else return high

/-- Takes what stands behind the backslash of an escape. -/
def escape : Scanner Char := do
  match ← anyChar with
  | '"' => return '"'
  | '\\' => return '\\'
  | '/' => return '/'
  | 'b' => return Char.ofNat 8
  | 'f' => return Char.ofNat 12
  | 'n' => return '\n'
  | 'r' => return '\r'
  | 't' => return '\t'
  | 'u' => do StateT.lift (Text.charOf? (← escapedNumber))
  | _ => failure

/-- Whether a character stands for itself in a text. -/
def isPlain (c : Char) : Bool :=
  0x20 ≤ c.toNat && c ≠ '"' && c ≠ '\\'

/-- Takes a piece of a text: characters that stand for themselves, or an escape. -/
def textPiece : Scanner (List Char) :=
  someRun isPlain <|> (do
    char '\\'
    return [← escape])

/-- Takes a text with its quotes. -/
def quotedText : Scanner String := do
  char '"'
  let pieces ← many textPiece
  char '"'
  return String.ofList pieces.flatten

/-! ## Values -/

/-- Takes a natural number, which has no needless zero in front. -/
def number : Scanner Nat := do
  let digits ← someRun fun c => '0' ≤ c && c ≤ '9'
  guard (digits.head? ≠ some '0' ∨ digits = ['0'])
  StateT.lift (Text.natOf? 10 digits)

/-- Takes a word that stands for a value. -/
def word (spelling : String) (value : Json) : Scanner Json := do
  chars spelling.toList
  return value

/-- Takes a value that holds no other. -/
def atom : Scanner Json :=
  word "null" .null <|> word "true" (.bool true) <|> word "false" (.bool false) <|>
    (.nat <$> number) <|> (.text <$> quotedText)

/-- Takes a list of the given values. -/
def listOf (value : Scanner Json) : Scanner Json := do
  mark '['
  let items ← separated (mark ',') (value <* blanks)
  char ']'
  return .list items

/-- Takes a member of an object. -/
def member (value : Scanner Json) : Scanner (String × Json) := do
  let name ← quotedText
  blanks
  mark ':'
  return (name, ← value)

/-- Takes an object with the given values. -/
def objectOf (value : Scanner Json) : Scanner Json := do
  mark '\x7b'
  let members ← separated (mark ',') (member value <* blanks)
  char '\x7d'
  return .object members

/-- Takes a value in which lists and objects nest to a depth. -/
def valueTo : Nat → Scanner Json
  | 0 => atom
  | depth + 1 => atom <|> listOf (valueTo depth) <|> objectOf (valueTo depth)

/-- The most levels to which lists and objects may nest. -/
def maxDepth : Nat := 127

/-- Reads a text that is one value. -/
def parse? (source : String) : Option Json := do
  let (value, _) ← (blanks *> valueTo maxDepth <* blanks <* finished) source.toList
  return value

end ProxyGate.Json
