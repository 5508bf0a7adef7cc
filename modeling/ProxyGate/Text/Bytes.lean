/-!
# Bytes and the text they spell

Data on a connection is a list of bytes.  A text goes out as its UTF-8 bytes, and bytes that are
known to be ASCII are read as characters one by one.  The two list operations at the end, cutting a
known ending off and finding the first line ending, are what header lines and bind addresses need.
-/

namespace ProxyGate

/-- Data as it travels on a connection. -/
abbrev Bytes := List UInt8

namespace Bytes

/-- The UTF-8 bytes of a text. -/
def ofText (text : String) : Bytes :=
  text.toList.flatMap String.utf8EncodeChar

/-- The text that bytes spell in UTF-8, when they are well formed. -/
def text? (bytes : Bytes) : Option String :=
  String.fromUTF8? ⟨bytes.toArray⟩

/-- Each byte as the character with its number.  For ASCII this is the text. -/
def chars (bytes : Bytes) : List Char :=
  bytes.map Char.ofUInt8

/-- Whether every byte is below 128. -/
def isAscii (bytes : Bytes) : Bool :=
  bytes.all (· < 128)

/-- Carriage return and line feed, which end a line. -/
def crlf : Bytes := [13, 10]

/-- The position of the first line ending. -/
def crlfAt? : Bytes → Option Nat
  | [] => none
  | byte :: rest =>
    if byte = 13 ∧ rest.head? = some 10 then some 0 else (crlfAt? rest).map (· + 1)

end Bytes

namespace Text

/-- What stands before a given ending, when the list has that ending. -/
def dropEnding? {α : Type} [DecidableEq α] (ending whole : List α) : Option (List α) :=
  let kept := whole.length - ending.length
  if whole.drop kept = ending then some (whole.take kept) else none

end Text

end ProxyGate
