import ProxyGate.Header.Fault

/-!
# Reading a header line

`Header.parse` takes a whole line with its end and gives the header it says, or the first rule it
breaks.  The rules are tried in this order: the line as a whole (not empty, not too long, ended,
ASCII, six words), then the shape of each word from left to right, then their meaning from left to
right.  `Header.signatureMismatch` tells already from the first bytes that no header can follow.
-/

namespace ProxyGate.Header

/-- Whether bytes already differ from the start of every header line. -/
def signatureMismatch (start : Bytes) : Bool :=
  !((start.take signature.length).isPrefixOf signature)

/-- A character that may stand in a word: ASCII, neither blank nor control. -/
def isGraphic (c : Char) : Bool :=
  0x21 ≤ c.toNat && c.toNat ≤ 0x7E

/-- Refuses an empty word and one with a blank or a control character. -/
def checkToken (field : Field) (token : List Char) : Except Fault Unit :=
  if token ≠ [] ∧ token.all isGraphic then .ok () else .error (.badToken field)

/-- Reads the word for the family. -/
def parseFamily (word : String) : Except Fault Family :=
  match Family.ofWord? word with
  | some family => .ok family
  | none => .error (.unknownFamily word)

/-- Reads an address under a family: an address of that version, or any token for `unknown`. -/
def parseHost (family : Family) (field : Field) (token : List Char) : Except Fault Host :=
  let ip? : Option Address.Ip :=
    match family with
    | .tcp4 => (Address.V4.ofChars? token).map .v4
    | .tcp6 => (Address.V6.ofChars? token).map .v6
    | .unknown => none
  if family = .unknown then .ok (.token (String.ofList token))
  else
    match ip? with
    | some ip => .ok (.ip ip)
    | none => .error (.wrongFamily family field (String.ofList token))

/-- Reads a port: decimal digits only, without a sign. -/
def parsePort (field : Field) (token : List Char) : Except Fault UInt16 :=
  match Text.portOf? token with
  | some port => .ok port
  | none => .error (.badPort field (String.ofList token))

/-- Reads the words of a line. -/
def parseWords : List (List Char) → Except Fault Header
  | [first, second, source, destination, sourcePort, destinationPort] => do
    checkToken .signature first
    checkToken .protocol second
    checkToken .sourceAddress source
    checkToken .destinationAddress destination
    checkToken .sourcePort sourcePort
    checkToken .destinationPort destinationPort
    if first ≠ keyword.toList then throw .badSignature
    let family ← parseFamily (String.ofList second)
    let sourceHost ← parseHost family .sourceAddress source
    let destinationHost ← parseHost family .destinationAddress destination
    let sourceEnd := Endpoint.mk sourceHost (← parsePort .sourcePort sourcePort)
    let destinationEnd := Endpoint.mk destinationHost (← parsePort .destinationPort destinationPort)
    return ⟨family, sourceEnd, destinationEnd⟩
  | words => throw (.fieldCount words.length)

/-- Reads a header line with its end. -/
def parse (line : Bytes) : Except Fault Header :=
  if line = [] then .error .empty
  else if maxLength < line.length then .error .tooLong
  else
    match Text.dropEnding? Bytes.crlf line with
    | none => .error .unterminated
    | some body =>
      if Bytes.isAscii body then parseWords ((Bytes.chars body).splitOn ' ')
      else .error .notAscii

end ProxyGate.Header
