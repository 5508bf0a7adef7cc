import ProxyGate.Http.Router
import ProxyGate.Proofs.Address.Socket
import ProxyGate.Proofs.Http.Client
import ProxyGate.Proofs.Json.RoundTrip

/-!
# A report tells the whole origin

A report names a host by its text alone and does not say whether it is an address or a token.  The
family beside it does: the lines that are read have addresses under `TCP4` and `TCP6` and tokens
under the unknown family.  So an origin whose header was read off a line can be read back from its
report.

`ofJson?` is that reader, one for each record of the report.  Each undoes the writer of its record
(`ofJson?_json`), and `ofReport?_compact` reads the text of the report back as well, so that equal
reports come from equal origins (`report_eq_iff`).
-/

namespace ProxyGate

/-! ## Members -/

namespace Json

/-- The value of a member. -/
def get? (name : String) : Json → Option Json
  | .object members => members.lookup name
  | _ => none

/-- The natural number of a member. -/
def nat? (name : String) (json : Json) : Option Nat :=
  match json.get? name with
  | some (.nat value) => some value
  | _ => none

/-- The string of a member. -/
def text? (name : String) (json : Json) : Option String :=
  match json.get? name with
  | some (.text value) => some value
  | _ => none

end Json

/-! ## Ends of the relayed connection -/

/-- The host that a text names under a family. -/
def Host.ofText? (family : Family) (text : String) : Option Host :=
  match family with
  | .tcp4 => (Address.V4.ofChars? text.toList).map fun ip => .ip (.v4 ip)
  | .tcp6 => (Address.V6.ofChars? text.toList).map fun ip => .ip (.v6 ip)
  | .unknown => some (.token text)

/-- A host is of the kind that a family names. -/
def Host.AgreesWith (host : Host) : Family → Prop
  | .tcp4 => host.IsV4
  | .tcp6 => host.IsV6
  | .unknown => host.IsToken

theorem Host.ofText?_text {host : Host} {family : Family} (h : host.AgreesWith family) :
    Host.ofText? family host.text = some host := by
  cases family with
  | tcp4 =>
    obtain ⟨ip, rfl⟩ := h
    rw [ofText?, text, Address.Ip.text, Address.Ip.chars, String.toList_ofList, ip.ofChars?_chars]
    rfl
  | tcp6 =>
    obtain ⟨ip, rfl⟩ := h
    rw [ofText?, text, Address.Ip.text, Address.Ip.chars, String.toList_ofList, ip.ofChars?_chars]
    rfl
  | unknown =>
    obtain ⟨token, rfl, _⟩ := h
    rfl

namespace Endpoint

/-- Reads an end of the relayed connection under a family. -/
def ofJson? (family : Family) (json : Json) : Option Endpoint := do
  let host ← Host.ofText? family (← json.text? "address")
  let port ← Text.atMost? 65535 (← json.nat? "port")
  return ⟨host, UInt16.ofNat port⟩

theorem ofJson?_json {endpoint : Endpoint} {family : Family}
    (h : endpoint.host.AgreesWith family) : ofJson? family endpoint.json = some endpoint := by
  have haddress : endpoint.json.text? "address" = some endpoint.host.text := rfl
  have hport : endpoint.json.nat? "port" = some endpoint.port.toNat := rfl
  have hfits : Text.atMost? 65535 endpoint.port.toNat = some endpoint.port.toNat :=
    if_pos (Nat.le_of_lt_succ endpoint.port.toNat_lt)
  simp only [ofJson?, haddress, hport, hfits, Host.ofText?_text h, Option.bind_eq_bind,
    Option.bind_some, UInt16.ofNat_toNat]
  rfl

end Endpoint

/-! ## Headers -/

namespace Header

/-- Reads a header. -/
def ofJson? (json : Json) : Option Header := do
  let family ← Family.ofWord? (← json.text? "protocol")
  let source ← Endpoint.ofJson? family (← json.get? "source")
  let destination ← Endpoint.ofJson? family (← json.get? "destination")
  return ⟨family, source, destination⟩

/-- The hosts of a header that is read agree with its family. -/
theorem agreesWith_of_parse {line : Bytes} {header : Header} (h : parse line = .ok header) :
    header.source.host.AgreesWith header.family ∧
      header.destination.host.AgreesWith header.family := by
  obtain ⟨hv4, hv6, htoken⟩ := hosts_of_parse h
  cases hfamily : header.family with
  | tcp4 => exact hv4 hfamily
  | tcp6 => exact hv6 hfamily
  | unknown => exact htoken hfamily

theorem ofJson?_json {line : Bytes} {header : Header} (h : parse line = .ok header) :
    ofJson? header.json = some header := by
  have hprotocol : header.json.text? "protocol" = some header.family.word := rfl
  have hsource : header.json.get? "source" = some header.source.json := rfl
  have hdestination : header.json.get? "destination" = some header.destination.json := rfl
  obtain ⟨hsourceHost, hdestinationHost⟩ := agreesWith_of_parse h
  simp only [ofJson?, hprotocol, hsource, hdestination, ofWord?_eq_some_iff.mpr rfl,
    Endpoint.ofJson?_json hsourceHost, Endpoint.ofJson?_json hdestinationHost, Option.bind_eq_bind,
    Option.bind_some]
  rfl

end Header

/-! ## Origins -/

namespace Connection.Origin

/-- An origin without a header, or with one that was read off a line. -/
def IsRead (origin : Origin) : Prop :=
  ∀ header, origin.header = some header → ∃ line, Header.parse line = .ok header

/-- Reads the header of an origin, which may have none. -/
def headerOfJson? : Json → Option (Option Header)
  | .null => some none
  | json => (Header.ofJson? json).map some

/-- Reads an origin. -/
def ofJson? (json : Json) : Option Origin := do
  let id ← json.nat? "id"
  let peer ← Address.Socket.ofText? (← json.text? "peer_addr")
  let here ← Address.Socket.ofText? (← json.text? "local_addr")
  let header ← headerOfJson? (← json.get? "proxy_line")
  return ⟨id, peer, here, header⟩

theorem headerOfJson?_json {header : Option Header}
    (h : ∀ given, header = some given → ∃ line, Header.parse line = .ok given) :
    headerOfJson? ((header.map Header.json).getD .null) = some header := by
  cases header with
  | none => rfl
  | some given =>
    obtain ⟨line, hline⟩ := h given rfl
    show (Header.ofJson? given.json).map some = _
    rw [Header.ofJson?_json hline, Option.map_some]

theorem ofJson?_json {origin : Origin} (h : origin.IsRead) : ofJson? origin.json = some origin := by
  have hid : origin.json.nat? "id" = some origin.id := rfl
  have hpeer : origin.json.text? "peer_addr" = some origin.peer.text := rfl
  have hhere : origin.json.text? "local_addr" = some origin.here.text := rfl
  have hheader : origin.json.get? "proxy_line" =
      some ((origin.header.map Header.json).getD .null) := rfl
  have hsocket : ∀ address : Address.Socket,
      Address.Socket.ofText? address.text = some address := by
    intro address
    rw [Address.Socket.ofText?, Address.Socket.text, String.toList_ofList,
      address.ofChars?_chars]
  simp only [ofJson?, hid, hpeer, hhere, hheader, hsocket, headerOfJson?_json h,
    Option.bind_eq_bind, Option.bind_some]
  rfl

/-- Reads an origin from the text of its report. -/
def ofReport? (report : String) : Option Origin :=
  (Json.parse? report).bind ofJson?

theorem nestsTo_json (origin : Origin) : origin.json.NestsTo Json.maxDepth := by
  obtain ⟨id, peer, here, header⟩ := origin
  cases header <;> simp [Json.maxDepth, Json.NestsTo, json, Header.json, Endpoint.json]

theorem ofReport?_compact {origin : Origin} (h : origin.IsRead) :
    ofReport? origin.json.compact = some origin := by
  rw [ofReport?, Json.parse?_compact origin.nestsTo_json, Option.bind_some, ofJson?_json h]

end Connection.Origin

/-! ## Reports over HTTP -/

namespace Http

open Connection (Origin)

/-- **A report tells the whole origin.**  Of two origins without a header, or with one that was read
off a line, the reports are the same text exactly when the origins are the same; and from the text
of a report every part of its origin can be read back, whatever tokens the header has. -/
theorem report_eq_iff {first second : Origin} (hfirst : first.IsRead) (hsecond : second.IsRead) :
    ((Response.report first).body = (Response.report second).body ↔ first = second) ∧
      Origin.ofReport? (Response.report first).body = some first := by
  have hreadFirst : Origin.ofReport? (Response.report first).body = some first :=
    Origin.ofReport?_compact hfirst
  have hreadSecond : Origin.ofReport? (Response.report second).body = some second :=
    Origin.ofReport?_compact hsecond
  refine ⟨⟨fun hsame => ?_, fun hsame => by rw [hsame]⟩, hreadFirst⟩
  rw [hsame, hreadSecond, Option.some.injEq] at hreadFirst
  exact hreadFirst.symm

/-- A connection between the ends of the next two origins. -/
def relayed (header : Header) : Origin :=
  ⟨7, .v4 ⟨192, 0, 2, 1⟩ 50000, .v6 ⟨[0xFE80, 0, 0, 0, 0, 0, 0, 1], rfl⟩ 443 3, some header⟩

/-- Its header claims an address. -/
def claimedAddress : Header :=
  ⟨.tcp4, ⟨.ip (.v4 ⟨10, 0, 0, 7⟩), 80⟩, ⟨.ip (.v4 ⟨10, 0, 0, 1⟩), 443⟩⟩

/-- Its header claims the same text as a token, and a token that would end its string. -/
def claimedTokens : Header :=
  ⟨.unknown, ⟨.token "10.0.0.7", 80⟩, ⟨.token "\"\x7d,null\\", 443⟩⟩

/-- An address and a token with the same text are told apart. -/
theorem report_eq_iff_disguised :
    (relayed claimedAddress).IsRead ∧ (relayed claimedTokens).IsRead ∧
      (Response.report (relayed claimedAddress)).body ≠
        (Response.report (relayed claimedTokens)).body ∧
      Origin.ofReport? (Response.report (relayed claimedTokens)).body =
        some (relayed claimedTokens) := by
  have haddress : (relayed claimedAddress).IsRead := by
    rintro header ⟨⟩
    exact ⟨Bytes.ofText "PROXY TCP4 10.0.0.7 10.0.0.1 80 443\r\n", rfl⟩
  have htokens : (relayed claimedTokens).IsRead := by
    rintro header ⟨⟩
    exact ⟨Bytes.ofText "PROXY UNKNOWN 10.0.0.7 \"\x7d,null\\ 80 443\r\n", rfl⟩
  have hother : relayed claimedAddress ≠ relayed claimedTokens := by decide
  exact ⟨haddress, htokens, fun hsame => hother ((report_eq_iff haddress htokens).1.mp hsame),
    (report_eq_iff htokens haddress).2⟩

-- no line says the header on the left
example : Header.json ⟨.unknown, claimedAddress.source, claimedTokens.destination⟩ =
    Header.json claimedTokens := by rfl

end Http

end ProxyGate
