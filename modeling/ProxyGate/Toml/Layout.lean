import ProxyGate.Text.Scanner

/-!
# Blanks, line ends and comments in TOML

A line ends in a line feed, with or without a carriage return in front of it.  A comment goes from
`#` to the end of its line.
-/

namespace ProxyGate.Toml

open Text Text.Scanner

/-- Takes blanks and tabs. -/
def blanks : Scanner Unit := do
  discard (run fun c => c = ' ' || c = '\t')

/-- Takes a line end. -/
def newline : Scanner Unit :=
  char '\n' <|> chars ['\r', '\n']

/-- Takes a line end, or nothing at the end of the text. -/
def lineEnd : Scanner Unit :=
  newline <|> finished

/-- A character that a comment may hold: a tab, or anything but the ASCII control characters. -/
def isCommentChar (c : Char) : Bool :=
  c = '\t' || (0x20 ≤ c.toNat && c.toNat ≠ 0x7F)

/-- Takes a comment up to the end of its line. -/
def comment : Scanner Unit := do
  char '#'
  discard (run isCommentChar)

/-- Takes what may stand behind an expression, with the line end. -/
def trailing : Scanner Unit := do
  blanks
  discard (optionally comment)
  lineEnd

/-- Takes blanks, line ends and comments, as they may stand inside a list. -/
def gaps : Scanner Unit := do
  blanks
  discard (many (optionally comment *> newline *> blanks))

end ProxyGate.Toml
