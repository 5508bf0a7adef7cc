import ProxyGate.Connection.Origin
import ProxyGate.Http.Target

/-!
# The origin report over HTTP

The gate serves one resource: `/` reports the origin of the connection that the request came in on.
It can be read (`GET`) or asked for without its content (`HEAD`); every other path is unknown.  A
request whose connection has no known origin cannot be answered.
-/

namespace ProxyGate.Http

open Connection (Origin)

/-- What a client asks for. -/
structure Request where
  /-- The method; the case of its letters matters. -/
  method : String
  target : Target
deriving DecidableEq, Repr

/-- What the gate answers. -/
inductive Response where
  /-- The report of an origin. -/
  | report (origin : Origin)
  /-- The report without its content. -/
  | emptyReport
  /-- The request cannot be read. -/
  | badRequest
  | notFound
  | methodNotAllowed
  /-- The target is longer than a target may be. -/
  | targetTooLong
  /-- There are more header fields than a request may have. -/
  | tooManyFields
  /-- The origin of the connection is not known. -/
  | noOrigin
deriving DecidableEq, Repr

namespace Response

/-- The status code. -/
def status : Response → Nat
  | .report _ | .emptyReport => 200
  | .badRequest => 400
  | .notFound => 404
  | .methodNotAllowed => 405
  | .targetTooLong => 414
  | .tooManyFields => 431
  | .noOrigin => 500

/-- The words beside a status code. -/
def reason : Response → String
  | .report _ | .emptyReport => "OK"
  | .badRequest => "Bad Request"
  | .notFound => "Not Found"
  | .methodNotAllowed => "Method Not Allowed"
  | .targetTooLong => "URI Too Long"
  | .tooManyFields => "Request Header Fields Too Large"
  | .noOrigin => "Internal Server Error"

/-- The methods that the resource allows, where one was used that it does not. -/
def allow? : Response → Option String
  | .methodNotAllowed => some "GET,HEAD"
  | _ => none

/-- The type of the content that the resource has. -/
def contentType? : Response → Option String
  | .report _ | .emptyReport => some "application/json"
  | _ => none

/-- The content. -/
def body : Response → String
  | .report origin => origin.json.compact
  | _ => ""

end Response

/-! ## Answers -/

/-- Answers a request on a connection whose origin may be known. -/
def answer (origin : Option Origin) (request : Request) : Response :=
  if request.target.path ≠ ['/'] then .notFound
  else if request.method ≠ "GET" ∧ request.method ≠ "HEAD" then .methodNotAllowed
  else
    match origin with
    | none => .noOrigin
    | some origin => if request.method = "GET" then .report origin else .emptyReport

end ProxyGate.Http
