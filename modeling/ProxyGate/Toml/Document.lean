import ProxyGate.Toml.Scalar
import ProxyGate.Toml.Text

/-!
# TOML documents

A document is read line by line: a pair, a header of one of the two kinds, or nothing, each with a
comment behind it if there is one.  A list may go over several lines and may end in a comma; a table
in braces stays on one line and may not.  Values nest to `maxDepth` levels.
-/

namespace ProxyGate.Toml

open Text (Scanner)
open Text.Scanner

/-- Takes a value that is a text, a number, a truth value or a moment. -/
def atom : Scanner Value :=
  (.text <$> text) <|> scalar

/-- Takes a list of the given values, trailing comma or not. -/
def listOf (value : Scanner Value) : Scanner Value := do
  char '['
  let items ← separated (char ',') (gaps *> value <* gaps)
  if items ≠ [] then discard (optionally (char ','))
  gaps
  char ']'
  return .list items

/-- Takes a key, the sign behind it, and a value. -/
def pairOf (value : Scanner Value) : Scanner (List String × Value) := do
  let path ← key
  char '='
  blanks
  return (path, ← value)

/-- Takes a table in braces with the given values. -/
def tableOf (value : Scanner Value) : Scanner Value := do
  char '\x7b'
  let pairs ← separated (char ',') (pairOf value <* blanks)
  blanks
  char '\x7d'
  return .table .closed (← StateT.lift (Table.ofPairs? pairs))

/-- Takes a value in which lists and tables nest to a depth. -/
def valueTo : Nat → Scanner Value
  | 0 => atom
  | depth + 1 => atom <|> listOf (valueTo depth) <|> tableOf (valueTo depth)

/-- Takes a value. -/
def value : Scanner Value := valueTo maxDepth

/-- Takes a header of a table. -/
def tableHeader : Scanner Line := do
  char '['
  let path ← key
  char ']'
  return .table path

/-- Takes a header of one table of a list. -/
def itemHeader : Scanner Line := do
  chars ['[', '[']
  let path ← key
  chars [']', ']']
  return .item path

/-- Takes a pair. -/
def pair : Scanner Line := do
  let (path, content) ← pairOf value
  return .pair path content

/-- Takes a line that says something, or a comment on a line of its own, with the line end. -/
def expression : Scanner Line :=
  (itemHeader <|> tableHeader <|> pair) <* trailing

/-- Takes an empty line or a line with a comment, with the line end. -/
def blankLine : Scanner Line := do
  discard (optionally comment)
  newline
  return .blank

/-- Takes any line, with the blanks in front of it. -/
def line : Scanner Line :=
  blanks *> (blankLine <|> expression)

/-- Takes the rest behind the last line end: blanks, and a comment if there is one. -/
def lastLine : Scanner Unit := do
  blanks
  discard (optionally comment)
  finished

/-- Takes a byte order mark. -/
def byteOrderMark : Scanner Unit :=
  char (Char.ofNat 0xFEFF)

/-- Takes a whole document. -/
def document : Scanner (List Line) := do
  discard (optionally byteOrderMark)
  let lines ← many line
  lastLine
  return lines

/-- Reads a document as the table it comes to. -/
def parse? (source : String) : Option Table := do
  let (lines, _) ← document source.toList
  Table.ofLines? lines

end ProxyGate.Toml
