import ProxyGate.Http.Router
import ProxyGate.Text.Bytes

/-!
# The head of a message

A head is a first line, header fields, one a line, and an empty line.  A `HeadReader` takes it off
the front of the bytes that have come so far.  It asks for more bytes only while they can still
begin a head; what cannot is refused at the first byte that shows it.
-/

namespace ProxyGate.Http

/-- Why no head was read. -/
inductive Halt where
  /-- More bytes are needed. -/
  | more
  /-- The bytes are no head, and this is answered. -/
  | refused (response : Response)
deriving DecidableEq, Repr

/-- Takes something off the front of bytes. -/
abbrev HeadReader (α : Type) := StateT Bytes (Except Halt) α

/-! ## Classes of bytes -/

/-- A byte of a method or of the name of a field. -/
def isTokenByte (byte : UInt8) : Bool :=
  let c := Char.ofUInt8 byte
  c.isAlphanum || "!#$%&'*+-.^_|~".toList.contains c || byte = 0x60

/-- A byte of a target: neither a blank nor a control character. -/
def isTargetByte (byte : UInt8) : Bool :=
  0x20 < byte && byte ≠ 0x7F

/-- A byte of the value of a field: a tab, or no control character. -/
def isValueByte (byte : UInt8) : Bool :=
  byte = 9 || (0x20 ≤ byte && byte ≠ 0x7F)

namespace HeadReader

/-- Refuses the bytes. -/
def refuse {α : Type} : HeadReader α :=
  throw (.refused .badRequest)

/-- Takes one byte. -/
def byte : HeadReader UInt8 := fun
  | [] => .error .more
  | first :: rest => .ok (first, rest)

/-- Takes the given byte. -/
def expect (expected : UInt8) : HeadReader Unit := do
  if (← byte) ≠ expected then refuse

/-- Takes the longest run of accepted bytes. -/
def run (accept : UInt8 → Bool) : HeadReader Bytes := fun bytes =>
  .ok (bytes.takeWhile accept, bytes.dropWhile accept)

/-- Takes a run of accepted bytes, which must not be empty, and the given byte behind it. -/
def runBefore (stop : UInt8) (accept : UInt8 → Bool) : HeadReader Bytes := do
  let taken ← run accept
  expect stop
  if taken = [] then refuse
  return taken

/-- Takes a line end: a line feed, with or without a carriage return in front of it. -/
def lineEnd : HeadReader Unit := do
  let first ← byte
  if first = 13 then expect 10
  else if first ≠ 10 then refuse

/-- Takes a line end if one begins here; the flag says whether it does. -/
def lineEndHere : HeadReader Bool := do
  match ← get with
  | [] => throw .more
  | first :: _ =>
    if first = 13 ∨ first = 10 then
      lineEnd
      return true
    else return false

/-- Takes empty lines off bytes; `lines` is at least their number. -/
def emptyLines (lines : Nat) : HeadReader Unit := do
  match lines with
  | 0 => return
  | lines + 1 => if ← lineEndHere then emptyLines lines

/-- Takes all empty lines in front of a head. -/
def leadingLines : HeadReader Unit := do
  emptyLines (← get).length

end HeadReader

/-! ## First lines -/

/-- The versions, and whether connections stay open by default. -/
def versions : List (Bytes × Bool) :=
  [(Bytes.ofText "HTTP/1.1", true), (Bytes.ofText "HTTP/1.0", false)]

/-- Takes a version; the flag says whether connections stay open by default. -/
def version : HeadReader Bool := fun bytes =>
  match versions.find? fun (name, _) => name.isPrefixOf bytes with
  | some (name, persistent) => .ok (persistent, bytes.drop name.length)
  | none =>
    if versions.any fun (name, _) => bytes.isPrefixOf name then .error .more
    else .error (.refused .badRequest)

/-- Text whose every character is one byte. -/
def latin (bytes : Bytes) : String :=
  String.ofList (Bytes.chars bytes)

/-- Takes the text of a target with the blank behind it. -/
def targetText : HeadReader String := do
  match Bytes.text? (← HeadReader.runBefore 32 isTargetByte) with
  | some text => return text
  | none => HeadReader.refuse

/-! ## Header fields -/

/-- A header field, its name in small letters. -/
structure HeaderField where
  name : String
  value : String
deriving DecidableEq, Repr

/-- Takes blanks and tabs off both ends. -/
def trimBlanks (bytes : Bytes) : Bytes :=
  let isBlank (byte : UInt8) : Bool := byte = 32 || byte = 9
  ((bytes.dropWhile isBlank).reverse.dropWhile isBlank).reverse

/-- Takes a header field with its line end. -/
def headerField : HeadReader HeaderField := do
  let name ← HeadReader.runBefore 58 isTokenByte
  let value ← HeadReader.run isValueByte
  HeadReader.lineEnd
  return ⟨(latin name).toLower, latin (trimBlanks value)⟩

/-- Takes header fields with the empty line behind them; there are at most as many as the given
number. -/
def headerFields (limit : Nat) : HeadReader (List HeaderField) := do
  if ← HeadReader.lineEndHere then return []
  let field ← headerField
  match limit with
  | 0 => throw (.refused .tooManyFields)
  | limit + 1 => return field :: (← headerFields limit)

/-- The most header fields of a message. -/
def maxFields : Nat := 100

/-! ## Requests -/

/-- The head of a request. -/
structure RequestHead where
  request : Request
  /-- Whether connections stay open by default, as they do from version 1.1 on. -/
  persistent : Bool
  fields : List HeaderField
deriving DecidableEq, Repr

/-- Takes the head of a request. -/
def requestHead : HeadReader RequestHead := do
  HeadReader.leadingLines
  let method ← HeadReader.runBefore 32 isTokenByte
  let target ← targetText
  let persistent ← version
  HeadReader.lineEnd
  let fields ← headerFields maxFields
  if Target.maxLength < target.utf8ByteSize then throw (.refused .targetTooLong)
  match Target.ofText? target with
  | some target => return ⟨⟨latin method, target⟩, persistent, fields⟩
  | none => HeadReader.refuse

end ProxyGate.Http
