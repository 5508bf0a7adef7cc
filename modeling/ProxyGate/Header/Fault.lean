import ProxyGate.Header.Basic
import ProxyGate.Text.Quoted

/-!
# Why a header line is refused

The faults of a header line, the sentence that reports each, and the short label under which each is
counted.
-/

namespace ProxyGate.Header

/-- The words of a header line, by what they say. -/
inductive Field where
  | signature
  | protocol
  | sourceAddress
  | destinationAddress
  | sourcePort
  | destinationPort
deriving DecidableEq, Repr

/-- The name of a field in a message. -/
def Field.name : Field → String
  | .signature => "signature"
  | .protocol => "protocol"
  | .sourceAddress => "source address"
  | .destinationAddress => "destination address"
  | .sourcePort => "source port"
  | .destinationPort => "destination port"

/-- What is wrong with a header line. -/
inductive Fault where
  /-- There is nothing to read. -/
  | empty
  /-- The line is longer than a header may be. -/
  | tooLong
  /-- The line does not end in carriage return and line feed. -/
  | unterminated
  /-- A byte is not ASCII. -/
  | notAscii
  /-- The first word is not the keyword. -/
  | badSignature
  /-- Single blanks do not part the line into six words. -/
  | fieldCount (found : Nat)
  /-- A word is empty or holds a blank or a control character. -/
  | badToken (field : Field)
  /-- The second word names no family. -/
  | unknownFamily (word : String)
  /-- An address is not one of the named family. -/
  | wrongFamily (family : Family) (field : Field) (address : String)
  /-- A port is not a number up to 65535 in plain digits. -/
  | badPort (field : Field) (value : String)
deriving DecidableEq, Repr

namespace Fault

/-- The sentence that reports a fault. -/
def message : Fault → String
  | .empty => "empty PROXY header"
  | .tooLong => "PROXY header exceeds " ++ String.ofList (Text.decimal maxLength) ++ " bytes"
  | .unterminated => "PROXY header is not terminated by CRLF"
  | .notAscii => "PROXY header contains non-ASCII bytes"
  | .badSignature => "PROXY header does not start with \"PROXY \""
  | .fieldCount found =>
    "PROXY header has " ++ String.ofList (Text.decimal found) ++ " fields, expected 6"
  | .badToken field => "PROXY header " ++ field.name ++ " is empty or contains whitespace"
  | .unknownFamily word => "unrecognized PROXY protocol " ++ Text.quote word
  | .wrongFamily family field address =>
    field.name ++ " " ++ Text.quote address ++ " is not a valid " ++ family.word ++ " address"
  | .badPort field value =>
    field.name ++ " " ++ Text.quote value ++ " is not a port in 0..=65535"

/-- The label under which a fault is counted. -/
def label : Fault → String
  | .empty | .unterminated | .notAscii => "malformed"
  | .tooLong => "too_long"
  | .badSignature => "bad_signature"
  | .fieldCount _ => "field_count"
  | .badToken _ => "token"
  | .unknownFamily _ => "unknown_protocol"
  | .wrongFamily .. => "address_family"
  | .badPort .. => "port"

end Fault

end ProxyGate.Header
