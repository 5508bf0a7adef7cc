import ProxyGate.Http.Router

/-!
# Requests with what is known of them

A request reaches its handler as a message: its content, and its parts, which are what the client
asks for together with what the server knows of the request.  A server attaches the origin of the
connection to each message, and a handler reads it off the message or off its parts.
-/

namespace ProxyGate.Http

open Connection (Origin)

/-- What the server knows of a request. -/
structure Extensions where
  /-- The origin of the connection that the request came in on. -/
  origin : Option Origin := none
deriving DecidableEq, Repr

/-- A request apart from its content. -/
structure Parts where
  request : Request
  extensions : Extensions := {}
deriving DecidableEq, Repr

/-- A request with its content. -/
structure Message (Content : Type) where
  parts : Parts
  content : Content
deriving DecidableEq, Repr

/-! ## Reading the origin -/

/-- What the origin of a connection can be read off. -/
class BearsOrigin (α : Type) where
  origin? : α → Option Origin

instance : BearsOrigin Parts where
  origin? parts := parts.extensions.origin

instance {Content : Type} : BearsOrigin (Message Content) where
  origin? message := message.parts.extensions.origin

namespace BearsOrigin

variable {α : Type} [BearsOrigin α]

/-- The header of the connection, where one was demanded. -/
def header? (bearer : α) : Option Header :=
  (origin? bearer).bind Origin.header

/-- The address of the client, where the origin is known. -/
def clientAddress? (bearer : α) : Option Address.Socket :=
  (origin? bearer).map Origin.clientAddress

end BearsOrigin

/-! ## Serving messages -/

namespace Message

variable {Content : Type}

/-- The message as the server hands it on, with the origin of its connection. -/
def attach (message : Message Content) (origin : Origin) : Message Content :=
  { message with parts.extensions.origin := some origin }

/-- Answers a message. -/
def answer (message : Message Content) : Response :=
  Http.answer (BearsOrigin.origin? message) message.parts.request

end Message

end ProxyGate.Http
