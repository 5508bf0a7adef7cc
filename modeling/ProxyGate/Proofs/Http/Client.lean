import ProxyGate.Http.Message
import ProxyGate.Proofs.Header.RoundTrip

/-!
# The address of a client is never an unchecked token

The types allow a header that mixes addresses and tokens under any family.  A line that is read
gives none: `hosts_of_parse` says that both hosts are addresses of the family's version, or tokens
under the unknown family.  `Origin.clientAddress` relies on that, since it looks at the host alone:
`clientAddress_of_ip` and `clientAddress_of_token` are its two cases.

`clientAddress_checked` puts them together, for a connection and for every message on it.
-/

namespace ProxyGate

namespace Header

/-- Both hosts of a header that is read are of the kind that its family names. -/
theorem hosts_of_parse {line : Bytes} {header : Header} (h : parse line = .ok header) :
    (header.family = .tcp4 → header.source.host.IsV4 ∧ header.destination.host.IsV4) ∧
      (header.family = .tcp6 → header.source.host.IsV6 ∧ header.destination.host.IsV6) ∧
      (header.family = .unknown →
        header.source.host.IsToken ∧ header.destination.host.IsToken) := by
  rcases (says_of_parse h).agreesOnIp_or with (⟨hfamily, hhosts⟩ | ⟨hfamily, hhosts⟩) |
    ⟨hfamily, hhosts⟩
  · rw [hfamily]
    exact ⟨fun _ => hhosts, nofun, nofun⟩
  · rw [hfamily]
    exact ⟨nofun, fun _ => hhosts, nofun⟩
  · rw [hfamily]
    exact ⟨nofun, nofun, fun _ => hhosts⟩

end Header

namespace Connection.Origin

variable {origin : Origin} {header : Header}

/-- An IP address that the header claims is the client's. -/
theorem clientAddress_of_ip {ip : Address.Ip} (h : origin.header = some header)
    (hhost : header.source.host = .ip ip) :
    origin.clientAddress = .ofIp ip header.source.port := by
  unfold clientAddress Endpoint.socket?
  rw [h, Option.bind_some, hhost]
  rfl

/-- A token that the header claims is nobody's address, whatever its text. -/
theorem clientAddress_of_token {text : String} (h : origin.header = some header)
    (hhost : header.source.host = .token text) : origin.clientAddress = origin.peer := by
  unfold clientAddress Endpoint.socket?
  rw [h, Option.bind_some, hhost]
  rfl

end Connection.Origin

namespace Http

open Connection (Origin)
open BearsOrigin (origin? clientAddress?)

/-- The parts of a message tell of the same client. -/
theorem clientAddress?_parts {Content : Type} (message : Message Content) :
    clientAddress? message.parts = clientAddress? message := rfl

/-- **The address of a client never comes from an unchecked token.**  Let a connection open with a
line that is read.

* Under `TCP4` both hosts of the header are IPv4 addresses, and the client is its source, with its
  port.
* Under `TCP6` both hosts are IPv6 addresses, and the client is its source, with its port and no
  scope.
* Under the unknown family both hosts are tokens, and the client is who connected, even where the
  token is the text of an address.
* Every message on the connection tells of that client, and so do its parts. -/
theorem clientAddress_checked {line : Bytes} {header : Header} (h : Header.parse line = .ok header)
    (id : Nat) (peer here : Address.Socket) :
    let origin : Origin := ⟨id, peer, here, some header⟩
    (header.family = .tcp4 → ∃ source destination, header.source.host = .ip (.v4 source) ∧
      header.destination.host = .ip (.v4 destination) ∧
      origin.clientAddress = .v4 source header.source.port) ∧
    (header.family = .tcp6 → ∃ source destination, header.source.host = .ip (.v6 source) ∧
      header.destination.host = .ip (.v6 destination) ∧
      origin.clientAddress = .v6 source header.source.port 0) ∧
    (header.family = .unknown → ∃ source destination, header.source.host = .token source ∧
      header.destination.host = .token destination ∧ origin.clientAddress = peer) ∧
    ∀ (Content : Type) (message : Message Content), origin? message = some origin →
      clientAddress? message = some origin.clientAddress ∧
        clientAddress? message.parts = some origin.clientAddress := by
  intro origin
  obtain ⟨hv4, hv6, htoken⟩ := Header.hosts_of_parse h
  refine ⟨?_, ?_, ?_, ?_⟩
  · intro hfamily
    obtain ⟨⟨source, hsource⟩, destination, hdestination⟩ := hv4 hfamily
    exact ⟨source, destination, hsource, hdestination, Origin.clientAddress_of_ip rfl hsource⟩
  · intro hfamily
    obtain ⟨⟨source, hsource⟩, destination, hdestination⟩ := hv6 hfamily
    exact ⟨source, destination, hsource, hdestination, Origin.clientAddress_of_ip rfl hsource⟩
  · intro hfamily
    obtain ⟨⟨source, hsource, _⟩, destination, hdestination, _⟩ := htoken hfamily
    exact ⟨source, destination, hsource, hdestination, Origin.clientAddress_of_token rfl hsource⟩
  · intro Content message hmessage
    have hclient : clientAddress? message = some origin.clientAddress := by
      unfold clientAddress?
      rw [hmessage, Option.map_some]
    exact ⟨hclient, (clientAddress?_parts message).trans hclient⟩

/-- A line under the unknown family whose tokens are the texts of addresses. -/
def disguised : Bytes := Bytes.ofText "PROXY UNKNOWN 10.0.0.7 10.0.0.1 56324 443\r\n"

/-- Who sends such a line is not taken for the address in it. -/
theorem clientAddress_checked_disguised :
    ∃ header, Header.parse disguised = .ok header ∧ header.family = .unknown ∧
      header.source.host.text = "10.0.0.7" ∧
      ∀ message : Message Unit,
        clientAddress? (message.attach ⟨7, .v4 ⟨192, 0, 2, 1⟩ 50000, .v4 ⟨10, 0, 0, 2⟩ 80,
          some header⟩) = some (.v4 ⟨192, 0, 2, 1⟩ 50000) := by
  have hparse : Header.parse disguised =
      .ok ⟨.unknown, ⟨.token "10.0.0.7", 56324⟩, ⟨.token "10.0.0.1", 443⟩⟩ := rfl
  refine ⟨_, hparse, rfl, rfl, fun message => ?_⟩
  obtain ⟨_, _, hunknown, hmessages⟩ :=
    clientAddress_checked hparse 7 (.v4 ⟨192, 0, 2, 1⟩ 50000) (.v4 ⟨10, 0, 0, 2⟩ 80)
  obtain ⟨_, _, _, _, hpeer⟩ := hunknown rfl
  rw [(hmessages Unit _ rfl).1, hpeer]

end Http

end ProxyGate
