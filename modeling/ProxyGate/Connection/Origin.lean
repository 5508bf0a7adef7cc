import ProxyGate.Header.Basic

/-!
# Where a connection comes from

What a handler is told of a connection: its number, the addresses of its two ends, and the header it
opened with.  The header is a claim and stands beside the addresses, never in place of them;
`clientAddress` is the one place that prefers it.
-/

namespace ProxyGate.Connection

/-- What is known of the origin of a connection. -/
structure Origin where
  id : Nat
  /-- Who connected. -/
  peer : Address.Socket
  /-- The listener's own address. -/
  here : Address.Socket
  /-- The header, where one was demanded. -/
  header : Option Header
deriving DecidableEq, Repr

namespace Origin

/-- The address of the client: the header's source when that is an IP address, and otherwise who
connected. -/
def clientAddress (origin : Origin) : Address.Socket :=
  (origin.header.bind fun header => header.source.socket?).getD origin.peer

/-- The name of a connection in the log. -/
def idText (id : Nat) : String :=
  "conn-" ++ String.ofList (Text.decimal id)

/-- An origin in a report. -/
def json (origin : Origin) : Json :=
  .object [("id", .nat origin.id), ("peer_addr", .text origin.peer.text),
    ("local_addr", .text origin.here.text),
    ("proxy_line", (origin.header.map Header.json).getD .null)]

end Origin

end ProxyGate.Connection
