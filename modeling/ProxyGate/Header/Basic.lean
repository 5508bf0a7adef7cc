import ProxyGate.Address.Socket
import ProxyGate.Json
import ProxyGate.Text.Bytes

/-!
# The PROXY header

A PROXY header (version 1) is one line of text in front of a connection's own data, with which a
relay says on whose behalf it connects: the address family, and address and port of the two ends.

This file holds the header as a value and its written forms: `Header.text` is the line without its
end, `Header.wire` the bytes with it, `Header.json` the form that reports use.  `Header.between?`
builds the header for a pair of socket addresses.  The types allow more headers than a line can say,
such as an IPv6 address under `TCP4`; the reader in `ProxyGate.Header.Parser` never gives one.
-/

namespace ProxyGate

/-- What a header says of the two addresses. -/
inductive Family where
  | tcp4
  | tcp6
  | unknown
deriving DecidableEq, Repr

namespace Family

/-- The word for a family on the wire. -/
def word : Family → String
  | .tcp4 => "TCP4"
  | .tcp6 => "TCP6"
  | .unknown => "UNKNOWN"

/-- The family that a word names; the case of its letters matters. -/
def ofWord? (word : String) : Option Family :=
  if word = "TCP4" then some .tcp4
  else if word = "TCP6" then some .tcp6
  else if word = "UNKNOWN" then some .unknown
  else none

/-- The family of an IP address. -/
def ofIp : Address.Ip → Family
  | .v4 _ => .tcp4
  | .v6 _ => .tcp6

end Family

/-- The address of one end: an IP address, or a token that nothing is known about. -/
inductive Host where
  | ip (address : Address.Ip)
  | token (text : String)
deriving DecidableEq, Repr

namespace Host

/-- The IP address, if there is one. -/
def ip? : Host → Option Address.Ip
  | .ip address => some address
  | .token _ => none

/-- The text of a host. -/
def text : Host → String
  | .ip address => address.text
  | .token text => text

end Host

/-- One end of the relayed connection, as the header claims it. -/
structure Endpoint where
  host : Host
  port : UInt16
deriving DecidableEq, Repr

namespace Endpoint

/-- The socket address of an end whose host is an IP address. -/
def socket? (endpoint : Endpoint) : Option Address.Socket :=
  endpoint.host.ip?.map (Address.Socket.ofIp · endpoint.port)

/-- The end at a socket address; a header has no place for a scope. -/
def ofSocket (address : Address.Socket) : Endpoint :=
  ⟨.ip address.ip, address.port⟩

/-- An end in a report. -/
def json (endpoint : Endpoint) : Json :=
  .object [("address", .text endpoint.host.text), ("port", .nat endpoint.port.toNat)]

end Endpoint

/-- A PROXY header. -/
structure Header where
  family : Family
  source : Endpoint
  destination : Endpoint
deriving DecidableEq, Repr

namespace Header

/-- The first word of every header. -/
def keyword : String := "PROXY"

/-- The bytes that every header line starts with, the blank included. -/
def signature : Bytes := Bytes.ofText "PROXY "

/-- The most bytes a header line may have, its end included. -/
def maxLength : Nat := 107

/-- A port in decimal, as a string. -/
def portText (port : UInt16) : String :=
  String.ofList (Text.decimal port.toNat)

/-- The six words of a header line. -/
def words (header : Header) : List String :=
  [keyword, header.family.word, header.source.host.text, header.destination.host.text,
    portText header.source.port, portText header.destination.port]

/-- The header line without its end. -/
def text (header : Header) : String :=
  " ".intercalate header.words

/-- The header line as it goes over the wire, with its end. -/
def wire (header : Header) : Bytes :=
  Bytes.ofText header.text ++ Bytes.crlf

/-- A header in a report. -/
def json (header : Header) : Json :=
  .object [("protocol", .text header.family.word), ("source", header.source.json),
    ("destination", header.destination.json)]

/-- The header for two socket addresses; there is none when their IP versions differ. -/
def between? (source destination : Address.Socket) : Option Header :=
  if Family.ofIp source.ip = Family.ofIp destination.ip then
    some ⟨Family.ofIp source.ip, .ofSocket source, .ofSocket destination⟩
  else none

end Header

end ProxyGate
