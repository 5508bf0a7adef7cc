import ProxyGate.Connection.Origin
import ProxyGate.Proofs.Header.RoundTrip
import ProxyGate.Proofs.Sniff.Agreement

/-!
# From the writer of a header to the reader of a stream

A relay writes the header for two socket addresses in front of a payload.  This file follows it
through the search to the handler:

* `between?_eq_some_iff` says which header that is, and `agreesOnIp_of_between?` that it has a line
  of its own.
* `accepted_of_wire` says that any well-formed header that comes in time is found and taken off,
  however the bytes are cut, and that the stream goes on with the payload, whatever is in it.
* `sniff_between` puts them together.
-/

namespace ProxyGate

/-- Two addresses have the same IP version. -/
def Address.Ip.SameVersion : Address.Ip → Address.Ip → Prop
  | .v4 _, .v4 _ | .v6 _, .v6 _ => True
  | .v4 _, .v6 _ | .v6 _, .v4 _ => False

namespace Header

variable {source destination : Address.Socket} {header : Header}

theorem ofIp_eq_iff {a b : Address.Ip} : Family.ofIp a = Family.ofIp b ↔ a.SameVersion b := by
  cases a <;> cases b <;> simp [Family.ofIp, Address.Ip.SameVersion]

/-- Two addresses of one version have a header with both of them. -/
theorem between?_eq_some_iff :
    between? source destination = some header ↔
      source.ip.SameVersion destination.ip ∧
        header = ⟨Family.ofIp source.ip, .ofSocket source, .ofSocket destination⟩ := by
  rw [between?, Option.ite_none_right_eq_some, ofIp_eq_iff, Option.some.injEq,
    eq_comm (b := header)]

theorem agreesOnIp_of_between? (h : between? source destination = some header) :
    header.AgreesOnIp := by
  obtain ⟨hversion, rfl⟩ := between?_eq_some_iff.mp h
  rw [AgreesOnIp, Endpoint.ofSocket, Endpoint.ofSocket]
  dsimp only
  generalize source.ip = a at hversion ⊢
  generalize destination.ip = b at hversion ⊢
  cases a with
  | v4 a =>
    cases b with
    | v4 b => exact .inl ⟨rfl, ⟨a, rfl⟩, b, rfl⟩
    | v6 b => cases hversion
  | v6 a =>
    cases b with
    | v4 b => cases hversion
    | v6 b => exact .inr ⟨rfl, ⟨a, rfl⟩, b, rfl⟩

end Header

/-- An end that was made from a socket address gives back its IP address and port. -/
theorem Endpoint.socket?_ofSocket (address : Address.Socket) :
    ∃ found, (Endpoint.ofSocket address).socket? = some found ∧ found.ip = address.ip ∧
      found.port = address.port := by
  refine ⟨_, rfl, ?_⟩
  cases address <;> exact ⟨rfl, rfl⟩

namespace Sniff

open ProxyGate.Stream

/-- A well-formed header that comes in time is found, and the stream goes on behind its line. -/
theorem accepted_of_wire {header : Header} (hformed : header.WellFormed) {limit : Nat}
    {duplex : Duplex} {payload : Bytes} (htime : header.wire <+: duplex.inlet.contentBy limit)
    (hcontent : duplex.inlet.content = header.wire ++ payload) :
    ∃ accepted, (sniff Duplex.read limit duplex .required).result = .ok accepted ∧
      accepted.header = some header ∧
      ReplaysBehind header.wire.length duplex.inlet.bytes (header.wire ++ payload)
        accepted.stream := by
  have hparse : Header.parse header.wire = .ok header := Header.parse_of_says hformed.says_wire
  have hresult := (header_sniff_required_iff duplex limit header).mpr ⟨_, htime, hparse⟩
  cases haccepted : (sniff Duplex.read limit duplex .required).result with
  | error failure =>
    rw [haccepted] at hresult
    cases hresult
  | ok accepted =>
    rw [haccepted] at hresult
    have hheader : accepted.header = some header := Except.ok.inj hresult
    obtain ⟨length, htakes, hreplays⟩ := replaysBehind_of_accepted haccepted
    rw [hheader] at htakes
    cases htakes with
    | required first parsed =>
      -- The line that was taken off and the line of the header open the same bytes.
      have hwire : header.wire <+: duplex.inlet.bytes :=
        (htime.trans (Script.contentBy_prefix_content limit _)).trans
          (Script.content_prefix_bytes _)
      have hline : duplex.inlet.bytes.take length = header.wire :=
        Header.eq_of_prefix_of_parse (List.take_prefix _ _) hwire parsed hparse
      have hlength : length = header.wire.length := by
        rw [← hline, List.length_take_of_le first.le_length]
      rw [hcontent, hlength] at hreplays
      exact ⟨accepted, rfl, hheader, hreplays⟩

/-- **From the writer to the handler nothing changes.**  Two socket addresses have a header exactly
when their IP versions are the same, and it has their IP addresses and ports.  A transport on which
the line of that header comes in time, with any payload behind it and cut in any way, is accepted:

* The header that is found is the one that was written.
* The address of the client is the source's, whoever has connected.
* Reading the stream to the end, at once or piece by piece, in buffers of any sizes, gives the
  payload. -/
theorem sniff_between (source destination : Address.Socket) :
    (Header.between? source destination = none ↔ ¬source.ip.SameVersion destination.ip) ∧
    ∀ header, Header.between? source destination = some header →
      (∃ found, header.source.socket? = some found ∧ found.ip = source.ip ∧
        found.port = source.port) ∧
      (∃ found, header.destination.socket? = some found ∧ found.ip = destination.ip ∧
        found.port = destination.port) ∧
      ∀ (duplex : Duplex) (limit : Nat) (payload : Bytes),
        header.wire <+: duplex.inlet.contentBy limit →
        duplex.inlet.content = header.wire ++ payload →
        ∃ accepted, (sniff Duplex.read limit duplex .required).result = .ok accepted ∧
          accepted.header = some header ∧
          (∀ origin : Connection.Origin, origin.header = accepted.header →
            origin.clientAddress.ip = source.ip ∧ origin.clientAddress.port = source.port) ∧
          accepted.stream.GivesToEnd payload := by
  refine ⟨?_, fun header hheader => ?_⟩
  · simp [Header.between?, Header.ofIp_eq_iff]
  · have hformed : header.WellFormed := .inl (Header.agreesOnIp_of_between? hheader)
    obtain ⟨_, hparts⟩ := Header.between?_eq_some_iff.mp hheader
    have hsource := Endpoint.socket?_ofSocket source
    refine ⟨by rwa [hparts], by rw [hparts]; exact Endpoint.socket?_ofSocket destination,
      fun duplex limit payload htime hcontent => ?_⟩
    obtain ⟨accepted, hresult, hfound, hreplays⟩ := accepted_of_wire hformed htime hcontent
    have hbehind : (header.wire ++ payload).drop header.wire.length = payload :=
      List.drop_left
    refine ⟨accepted, hresult, hfound, fun origin horigin => ?_, ?_⟩
    · obtain ⟨found, hsocket, hip, hport⟩ := hsource
      have hclient : origin.clientAddress = found := by
        rw [Connection.Origin.clientAddress, horigin, hfound, Option.bind_some, hparts, hsocket,
          Option.getD_some]
      rw [hclient]
      exact ⟨hip, hport⟩
    · rw [← hbehind]
      exact hreplays.gives

/-- A transport on which a header comes in three pieces, with the first bytes of another one. -/
def relayed : Duplex where
  inlet := .chunked
    [(1, Bytes.ofText "PROXY TCP4 10.0.0.7 10.0."), (2, Bytes.ofText "0.1 56324 443\r"),
      (3, Bytes.ofText "\n\r\nPROXY TC"), (40, Bytes.ofText "P4")] [.finish]

/-- The header between two IPv4 addresses. -/
def relayedHeader : Header :=
  ⟨.tcp4, ⟨.ip (.v4 ⟨10, 0, 0, 7⟩), 56324⟩, ⟨.ip (.v4 ⟨10, 0, 0, 1⟩), 443⟩⟩

/-- The header is found, and a payload that begins with a line ending and another header is given
whole, also where it comes after the time for the header. -/
theorem sniff_between_relayed :
    ∃ accepted, (sniff Duplex.read 6 relayed .required).result = .ok accepted ∧
      accepted.header = some relayedHeader ∧
      accepted.stream.GivesToEnd (Bytes.ofText "\r\nPROXY TCP4") := by
  have hheader : Header.between? (.v4 ⟨10, 0, 0, 7⟩ 56324) (.v4 ⟨10, 0, 0, 1⟩ 443) =
      some relayedHeader := rfl
  have htime : relayedHeader.wire <+: relayed.inlet.contentBy 6 := by decide
  have hcontent : relayed.inlet.content =
      relayedHeader.wire ++ Bytes.ofText "\r\nPROXY TCP4" := by decide
  obtain ⟨_, hrelays⟩ := sniff_between (.v4 ⟨10, 0, 0, 7⟩ 56324) (.v4 ⟨10, 0, 0, 1⟩ 443)
  obtain ⟨_, _, hgives⟩ := hrelays relayedHeader hheader
  obtain ⟨accepted, hresult, hfound, _, hgiven⟩ := hgives relayed 6 _ htime hcontent
  exact ⟨accepted, hresult, hfound, hgiven⟩

end Sniff

end ProxyGate
