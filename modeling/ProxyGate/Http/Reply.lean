import ProxyGate.Http.Head

/-!
# Responses as a client sees them

A response is a head whose first line has the status, and as much content as the field
`Content-Length` says.
-/

namespace ProxyGate.Http

/-- A response that a client got. -/
structure Reply where
  status : Nat
  reason : String
  body : Bytes
deriving DecidableEq, Repr

/-- Reads a status line: the status code and the words behind it. -/
def statusLine? (line : Bytes) : Option (Nat × String) := do
  match (Bytes.chars line).splitOn ' ' with
  | version :: code :: reason =>
    guard ((versions.lookup (Bytes.ofText (String.ofList version))).isSome ∧ code.length = 3)
    return (← Text.natOf? 10 code, String.ofList (List.intercalate [' '] reason))
  | _ => none

/-- The length of the content behind a head; there is none without the field. -/
def contentLength? (fields : List HeaderField) : Option Nat :=
  match (fields.filter (·.name = "content-length")).map (·.value) with
  | [] => some 0
  | [value] => Text.natOf? 10 value.toList
  | _ => none

/-- Takes a response with its content. -/
def reply : HeadReader Reply := do
  let line ← HeadReader.run isValueByte
  HeadReader.lineEnd
  let fields ← headerFields maxFields
  match statusLine? line, contentLength? fields with
  | some (status, reason), some length =>
    let content ← get
    if content.length < length then throw .more
    return ⟨status, reason, content.take length⟩
  | _, _ => HeadReader.refuse

/-- What the bytes that have come so far amount to. -/
inductive Arrival where
  /-- More bytes are needed. -/
  | more
  | malformed
  | reply (reply : Reply)
deriving DecidableEq, Repr

/-- Reads a response. -/
def Arrival.read (bytes : Bytes) : Arrival :=
  match Http.reply bytes with
  | .ok (whole, _) => .reply whole
  | .error .more => .more
  | .error (.refused _) => .malformed

end ProxyGate.Http
