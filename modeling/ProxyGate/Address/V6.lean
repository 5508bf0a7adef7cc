import ProxyGate.Address.V4

/-!
# IPv6 addresses

Eight groups of sixteen bits and their text.

* Reading takes the usual spellings: groups of one to four hexadecimal digits between colons, one
  `::` for a run of at least one zero group, and a dotted IPv4 address in place of the last two
  groups.
* Writing gives each address one text: small letters, no leading zeros, `::` for the first longest
  run of at least two zero groups, and the dotted form after `::ffff:` exactly for IPv4-mapped
  addresses.
-/

namespace ProxyGate.Address

/-- An IPv6 address: eight groups, most significant first. -/
structure V6 where
  groups : List UInt16
  length_groups : groups.length = 8
deriving DecidableEq, Repr

namespace V6

/-- The address with the given groups, when there are eight. -/
def ofGroups? (groups : List UInt16) : Option V6 :=
  if h : groups.length = 8 then some ⟨groups, h⟩ else none

/-! ## Writing -/

/-- Groups in hexadecimal with colons between them. -/
def groupChars (groups : List UInt16) : List Char :=
  List.intercalate [':'] (groups.map fun group => Text.hexadecimal group.toNat)

/-- How many zero groups stand from a position on. -/
def zerosFrom (groups : List UInt16) (start : Nat) : Nat :=
  ((groups.drop start).takeWhile (· = 0)).length

/-- Start and length of the longest run of zero groups, the first one of several. -/
def longestZeros (groups : List UInt16) : Nat × Nat :=
  (List.range groups.length).foldl
    (fun best start =>
      let length := zerosFrom groups start
      if best.2 < length then (start, length) else best)
    (0, 0)

/-- The octets of two groups as an IPv4 address. -/
def v4OfGroups (high low : UInt16) : V4 :=
  ⟨(high / 256).toUInt8, (high % 256).toUInt8, (low / 256).toUInt8, (low % 256).toUInt8⟩

/-- The IPv4 address inside an IPv4-mapped address. -/
def mapped? (ip : V6) : Option V4 :=
  match ip.groups with
  | [0, 0, 0, 0, 0, 0xFFFF, high, low] => some (v4OfGroups high low)
  | _ => none

/-- The text of an address. -/
def chars (ip : V6) : List Char :=
  match ip.mapped? with
  | some v4 => "::ffff:".toList ++ v4.chars
  | none =>
    let (start, length) := longestZeros ip.groups
    if length < 2 then groupChars ip.groups
    else
      groupChars (ip.groups.take start) ++ ':' :: ':' ::
        groupChars (ip.groups.drop (start + length))

/-- The text of an address, as a string. -/
def text (ip : V6) : String :=
  String.ofList ip.chars

/-! ## Reading -/

/-- One group: one to four hexadecimal digits. -/
def group? (digits : List Char) : Option UInt16 :=
  if 4 < digits.length then none else (Text.natOf? 16 digits).map UInt16.ofNat

/-- The two groups that a dotted address takes the place of. -/
def groupsOfV4 (ip : V4) : List UInt16 :=
  [ip.a.toUInt16 * 256 + ip.b.toUInt16, ip.c.toUInt16 * 256 + ip.d.toUInt16]

/-- The groups of the pieces between colons; the last piece may be a dotted address. -/
def groups? : List (List Char) → Option (List UInt16)
  | [] => some []
  | [piece] =>
    match group? piece with
    | some group => some [group]
    | none => (V4.ofChars? piece).map groupsOfV4
  | piece :: rest => do return (← group? piece) :: (← groups? rest)

/-- The pieces between colons; an empty text has none. -/
def pieces (chars : List Char) : List (List Char) :=
  if chars = [] then [] else chars.splitOn ':'

/-- What stands on the two sides of the first `::`. -/
def cutGap? : List Char → Option (List Char × List Char)
  | [] => none
  | c :: rest =>
    if c = ':' ∧ rest.head? = some ':' then some ([], rest.tail)
    else (cutGap? rest).map fun (before, after) => (c :: before, after)

/-- The address whose `::` stands between the given groups. -/
def fillGap? (front back : List UInt16) : Option V6 :=
  if front.length + back.length < 8 then
    ofGroups? (front ++ List.replicate (8 - (front.length + back.length)) 0 ++ back)
  else none

/-- Reads an address. -/
def ofChars? (chars : List Char) : Option V6 :=
  match cutGap? chars with
  | none => (groups? (pieces chars)).bind ofGroups?
  | some (before, after) => do
    let front ← (pieces before).mapM group?
    let back ← groups? (pieces after)
    fillGap? front back

end V6

end ProxyGate.Address
