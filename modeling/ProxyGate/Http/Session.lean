import ProxyGate.Http.Head

/-!
# HTTP/1 on a connection

A connection carries requests one behind the other, each a head with the content that its header
fields announce.  `exchange` gives what the server sends for the bytes that have come so far: the
responses in order, and whether it then closes the connection.  Nobody reads content here: it is
skipped if all of it has come with the head, and otherwise the connection ends behind the response.
-/

namespace ProxyGate.Http

/-! ## What the fields say of the connection -/

/-- The items of a value that is a list with commas, in small letters; a value that is not ASCII is
no list. -/
def listItems (value : String) : List String :=
  if value.toList.all fun c => c.toNat < 128 then
    (value.toList.splitOn ',').map fun item =>
      latin (trimBlanks (Bytes.ofText (String.ofList item).toLower))
  else []

/-- The largest length that can be announced. -/
def maxContent : Nat := Nat.pow 2 64 - 1

/-- What the header fields say of the connection. -/
structure Framing where
  /-- Whether the connection stays open behind the response. -/
  keepsOpen : Bool
  /-- The length of the content, if one is announced. -/
  length : Option Nat := none
  /-- Whether the content comes in chunks, if it is encoded at all. -/
  chunked : Option Bool := none
deriving DecidableEq, Repr

namespace Framing

/-- Takes in the announced length; two that differ contradict each other. -/
def withLength? (framing : Framing) (value : String) : Option Framing := do
  let length ← (Text.natOf? 10 value.toList).bind (Text.atMost? maxContent)
  match framing.length with
  | none => return { framing with length := some length }
  | some earlier => if earlier = length then return framing else none

/-- Takes in one header field, under a version that allows encoded content or not.  A length beside
an encoding means nothing. -/
def add? (allowsEncoding : Bool) (framing : Framing) (field : HeaderField) : Option Framing :=
  if field.name = "transfer-encoding" then
    if allowsEncoding then
      some { framing with chunked := some ((listItems field.value).getLast? = some "chunked") }
    else none
  else if field.name = "content-length" then
    if framing.chunked.isSome then some framing else framing.withLength? field.value
  else if field.name = "connection" then
    let items := listItems field.value
    some { framing with
      keepsOpen :=
        if framing.keepsOpen then !items.contains "close" else items.contains "keep-alive" }
  else some framing

/-- What the fields of a head say; content must come in chunks if it is encoded. -/
def ofHead? (head : RequestHead) : Option Framing := do
  let framing ← head.fields.foldlM (add? head.persistent) { keepsOpen := head.persistent }
  if framing.chunked = some false then none else return framing

/-- Content in chunks that has none. -/
def noChunks : Bytes := Bytes.ofText "0\r\n\r\n"

/-- What stands behind the content, if all of it is there. -/
def skip? (framing : Framing) (bytes : Bytes) : Option Bytes :=
  let length := framing.length.getD 0
  if framing.chunked.isSome then
    if noChunks.isPrefixOf bytes then some (bytes.drop noChunks.length) else none
  else if length ≤ bytes.length then some (bytes.drop length)
  else none

end Framing

/-! ## Requests one behind the other -/

/-- What the front of a connection's bytes comes to. -/
inductive Turn where
  /-- More bytes are needed. -/
  | more
  /-- No request; this is answered, if anything. -/
  | refused (response : Option Response)
  /-- A request, whether it is the last one, and what stands behind its content. -/
  | request (request : Request) (last : Bool) (rest : Bytes)
deriving DecidableEq, Repr

namespace Turn

/-- How a client begins that speaks only the second version of the protocol. -/
def secondVersion : Bytes := Bytes.ofText "PRI * HTTP/2.0"

/-- Whether bytes are the beginning of the second version of the protocol, which is not answered. -/
def isSecondVersion (bytes : Bytes) : Bool :=
  secondVersion.isPrefixOf (bytes.dropWhile fun byte => byte = 13 || byte = 10)

/-- The turn for a head and the bytes behind it. -/
def ofHead (head : RequestHead) (rest : Bytes) : Turn :=
  match Framing.ofHead? head with
  | none => .refused (some .badRequest)
  | some framing =>
    match framing.skip? rest with
    | some rest => .request head.request (!framing.keepsOpen) rest
    | none => .request head.request true []

/-- Reads one request. -/
def read (bytes : Bytes) : Turn :=
  match requestHead bytes with
  | .error .more => .more
  | .error (.refused response) =>
    .refused (if isSecondVersion bytes then none else some response)
  | .ok (head, rest) => ofHead head rest

end Turn

/-- What a server sends. -/
structure Exchange where
  responses : List Response
  /-- Whether it closes the connection behind them. -/
  closed : Bool
deriving DecidableEq, Repr

/-- What the server sends for the bytes that have come so far. -/
def exchange (respond : Request → Response) (bytes : Bytes) : Exchange :=
  match Turn.read bytes with
  | .more => ⟨[], false⟩
  | .refused response => ⟨response.toList, true⟩
  | .request request true _ => ⟨[respond request], true⟩
  | .request request false rest =>
    if _h : rest.length < bytes.length then
      let later := exchange respond rest
      ⟨respond request :: later.responses, later.closed⟩
    else ⟨[respond request], true⟩
termination_by bytes.length

/-! ## Written form -/

/-- A response as it goes over the wire; the last one says so. -/
def Response.wire (response : Response) (last : Bool) : Bytes :=
  let content := Bytes.ofText response.body
  let field (name value : String) : String := name ++ ": " ++ value ++ "\r\n"
  let number (value : Nat) : String := String.ofList (Text.decimal value)
  let head := "HTTP/1.1 " ++ number response.status ++ " " ++ response.reason ++ "\r\n" ++
    (response.contentType?.map (field "content-type")).getD "" ++
    (response.allow?.map (field "allow")).getD "" ++
    (if last then field "connection" "close" else "") ++
    field "content-length" (number content.length) ++ "\r\n"
  Bytes.ofText head ++ content

/-- What a server sends, as bytes. -/
def Exchange.wire (exchange : Exchange) : Bytes :=
  exchange.responses.zipIdx.flatMap fun (response, index) =>
    response.wire (exchange.closed && index + 1 = exchange.responses.length)

end ProxyGate.Http
