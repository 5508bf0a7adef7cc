import ProxyGate.Text.Digits
import ProxyGate.Toml.Layout

/-!
# TOML texts and keys

A text stands between quotes of one of two kinds: double quotes, inside which a backslash begins an
escape, or single quotes, inside which nothing does.  Three quotes of a kind open a text that may go
over several lines.
-/

namespace ProxyGate.Toml

open Text (Scanner)
open Text.Scanner

/-! ## Escapes -/

/-- Takes the given number of hexadecimal digits as the number of a character. -/
def codePoint (digits : Nat) : Scanner Char := do
  let taken ← exactly digits
  StateT.lift ((Text.natOf? 16 taken).bind Text.charOf?)

/-- Takes what stands behind the backslash of an escape. -/
def escape : Scanner Char := do
  match ← anyChar with
  | '"' => return '"'
  | '\\' => return '\\'
  | 'b' => return Char.ofNat 8
  | 'f' => return Char.ofNat 12
  | 'n' => return '\n'
  | 'r' => return '\r'
  | 't' => return '\t'
  | 'u' => codePoint 4
  | 'U' => codePoint 8
  | _ => failure

/-! ## Texts on one line -/

/-- A character that stands for itself between double quotes. -/
def isBasicChar (c : Char) : Bool :=
  isCommentChar c && c ≠ '"' && c ≠ '\\'

/-- A character that may stand between single quotes. -/
def isLiteralChar (c : Char) : Bool :=
  isCommentChar c && c ≠ '\''

/-- Takes a piece of a text between double quotes: characters that stand for themselves, or an
escape. -/
def basicPiece : Scanner (List Char) :=
  someRun isBasicChar <|> (do
    char '\\'
    return [← escape])

/-- Takes a text between double quotes. -/
def basicText : Scanner (List Char) := do
  char '"'
  let pieces ← many basicPiece
  char '"'
  return pieces.flatten

/-- Takes a text between single quotes. -/
def literalText : Scanner (List Char) := do
  char '\''
  let content ← run isLiteralChar
  char '\''
  return content

/-! ## Texts over several lines -/

/-- Takes a line end as part of a text, which holds it as a line feed. -/
def textNewline : Scanner (List Char) := do
  newline
  return ['\n']

/-- Takes a backslash at the end of a line, with all blanks and line ends behind it: they are no
part of the text. -/
def continuation : Scanner (List Char) := do
  char '\\'
  blanks
  newline
  blanks
  discard (many (newline *> blanks))
  return []

/-- Takes one or two quotes that do not belong to the end of a text. -/
def looseQuotes (quote : Char) : Scanner (List Char) := do
  let quotes ← someRun (· = quote)
  guard (quotes.length ≤ 2)
  return quotes

/-- Takes the end of a text: three quotes, and up to two more that belong to the text. -/
def closingQuotes (quote : Char) : Scanner (List Char) := do
  let quotes ← run (· = quote)
  guard (3 ≤ quotes.length ∧ quotes.length ≤ 5)
  return quotes.drop 3

/-- Takes a text over several lines, made of the given pieces; a line end right behind the opening
quotes is no part of it. -/
def longText (quote : Char) (piece : Scanner (List Char)) : Scanner (List Char) := do
  chars [quote, quote, quote]
  discard (optionally newline)
  let pieces ← many (piece <|> textNewline <|> looseQuotes quote)
  return pieces.flatten ++ (← closingQuotes quote)

/-- Takes a text of any of the four kinds. -/
def text : Scanner String :=
  String.ofList <$>
    (longText '"' (continuation <|> basicPiece) <|> longText '\'' (someRun isLiteralChar) <|>
      basicText <|> literalText)

/-! ## Keys -/

/-- A character of a key without quotes. -/
def isBareKeyChar (c : Char) : Bool :=
  ('a' ≤ c && c ≤ 'z') || ('A' ≤ c && c ≤ 'Z') || ('0' ≤ c && c ≤ '9') || c = '-' || c = '_'

/-- Takes one segment of a key, with the blanks around it. -/
def keySegment : Scanner String := do
  blanks
  let segment ← someRun isBareKeyChar <|> basicText <|> literalText
  blanks
  return String.ofList segment

/-- The most levels to which keys, lists and tables may nest. -/
def maxDepth : Nat := 79

/-- Takes a key: segments with points in between. -/
def key : Scanner (List String) := do
  let segments ← separated (char '.') keySegment
  guard (segments ≠ [] ∧ segments.length ≤ maxDepth)
  return segments

end ProxyGate.Toml
