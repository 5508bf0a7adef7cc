import ProxyGate.Proofs.Address.V6
import ProxyGate.Proofs.Header.Grammar

/-!
# Headers written and read back

The types allow more headers than a line can say: the family and the two hosts need not agree, and
the token of an unknown family may be any text.  `Header.WellFormed` says which headers have a line
of their own, and `parse_wire_eq_ok_iff` that they are exactly the ones that reading their line
gives again.

The proof goes through `Says` in both directions.  From left to right the grammar forces the shape
of the hosts.  From right to left `says_wire` builds the six words: the texts of addresses and ports
are graphic, they are read back, and `length_wire_le` bounds them.
-/

namespace ProxyGate

/-- A text of graphic ASCII characters, at least one. -/
def IsGraphicText (text : String) : Prop :=
  text ≠ "" ∧ ∀ c ∈ text.toList, 0x21 ≤ c.toNat ∧ c.toNat ≤ 0x7E

/-- A host that is an IPv4 address. -/
def Host.IsV4 (host : Host) : Prop := ∃ ip, host = .ip (.v4 ip)

/-- A host that is an IPv6 address. -/
def Host.IsV6 (host : Host) : Prop := ∃ ip, host = .ip (.v6 ip)

/-- A host that is a token with a graphic text. -/
def Host.IsToken (host : Host) : Prop := ∃ text, host = .token text ∧ IsGraphicText text

namespace Header

open ProxyGate.Text

/-- Both hosts are addresses of the version that the family names. -/
def AgreesOnIp (header : Header) : Prop :=
  (header.family = .tcp4 ∧ header.source.host.IsV4 ∧ header.destination.host.IsV4) ∨
    (header.family = .tcp6 ∧ header.source.host.IsV6 ∧ header.destination.host.IsV6)

/-- A header with a line of its own: its hosts are addresses of its family, or graphic tokens under
the unknown family that fit into a line. -/
def WellFormed (header : Header) : Prop :=
  header.AgreesOnIp ∨
    (header.family = .unknown ∧ header.source.host.IsToken ∧ header.destination.host.IsToken ∧
      header.wire.length ≤ maxLength)

/-! ## Graphic texts -/

/-- A graphic text has one byte for each character. -/
theorem chars_ofText_of_isGraphicText {text : String} (h : IsGraphicText text) :
    Bytes.chars (Bytes.ofText text) = text.toList :=
  Bytes.chars_ofText fun c hc => Nat.lt_of_le_of_lt (h.2 c hc).2 (by decide)

theorem length_ofText_of_isGraphicText {text : String} (h : IsGraphicText text) :
    (Bytes.ofText text).length = text.toList.length := by
  rw [← chars_ofText_of_isGraphicText h, Bytes.chars, List.length_map]

/-- The words on the wire are the graphic texts. -/
theorem isWord_ofText_iff {text : String} : IsWord (Bytes.ofText text) ↔ IsGraphicText text := by
  have hempty : Bytes.ofText text ≠ [] ↔ text ≠ "" :=
    not_congr ⟨fun h => Bytes.ofText_injective (h.trans rfl), fun h => by rw [h]; rfl⟩
  constructor
  · intro h
    refine ⟨hempty.mp h.1, ?_⟩
    rw [← Bytes.chars_ofText_of_isAscii h.isAscii, Bytes.chars, List.forall_mem_map]
    intro byte hbyte
    rw [Bytes.toNat_ofUInt8]
    exact h.2 byte hbyte
  · intro h
    refine ⟨hempty.mpr h.1, ?_⟩
    have hall := h.2
    rw [← chars_ofText_of_isGraphicText h, Bytes.chars, List.forall_mem_map] at hall
    simpa only [Bytes.toNat_ofUInt8] using hall

theorem isGraphicText_ofList {chars : List Char} (hne : chars ≠ [])
    (h : ∀ c ∈ chars, 0x21 ≤ c.toNat ∧ c.toNat ≤ 0x7E) : IsGraphicText (String.ofList chars) := by
  refine ⟨?_, by rwa [String.toList_ofList]⟩
  intro hempty
  rw [← String.toList_inj, String.toList_ofList] at hempty
  exact hne hempty

/-- What stands for a digit is graphic. -/
theorem graphic_of_isSome_digitOf? {base : Nat} {c : Char} (h : (digitOf? base c).isSome) :
    0x21 ≤ c.toNat ∧ c.toNat ≤ 0x7E := by
  rcases toNat_of_isSome_digitOf? h with h | h | h <;> omega

theorem isGraphicText_portText (port : UInt16) : IsGraphicText (portText port) := by
  refine isGraphicText_ofList Nat.toDigits_ne_nil ?_
  intro c hc
  exact graphic_of_isSome_digitOf? (isSome_digitOf?_of_mem_toDigits (by decide) (by decide) hc)

theorem isGraphicText_text_v4 (ip : Address.V4) :
    IsGraphicText (Host.text (.ip (.v4 ip))) := by
  refine isGraphicText_ofList (List.ne_nil_of_mem ip.dot_mem_chars) ?_
  intro c hc
  rcases ip.eq_dot_or_isDigit_of_mem_chars hc with rfl | hdigit
  · decide
  · exact graphic_of_isSome_digitOf? (isSome_digitOf?_of_isDigit hdigit)

theorem isGraphicText_text_v6 (ip : Address.V6) :
    IsGraphicText (Host.text (.ip (.v6 ip))) := by
  refine isGraphicText_ofList ?_ ?_
  · intro hempty
    have hread := ip.ofChars?_chars
    rw [show ip.chars = [] from hempty] at hread
    cases hread
  · intro c hc
    rcases Address.V6.isSome_digitOf?_of_mem_chars hc with rfl | rfl | hdigit
    · decide
    · decide
    · exact graphic_of_isSome_digitOf? hdigit

/-! ## The written line -/

/-- Texts with blanks between them are written as bytes with blanks between them. -/
theorem ofText_intercalate (texts : List String) :
    Bytes.ofText (" ".intercalate texts) = [32].intercalate (texts.map Bytes.ofText) := by
  induction texts with
  | nil => rfl
  | cons text texts ih =>
    cases texts with
    | nil => simp
    | cons next rest =>
      rw [String.intercalate_cons_cons, Bytes.ofText_append, Bytes.ofText_append, ih]
      simp only [List.map_cons, List.intercalate_cons_cons]
      rfl

/-- The line of a header, word by word. -/
theorem wire_eq (header : Header) :
    header.wire = Bytes.ofText "PROXY " ++ Bytes.ofText header.family.word ++ blank ++
      Bytes.ofText header.source.host.text ++ blank ++
      Bytes.ofText header.destination.host.text ++ blank ++
      Bytes.ofText (portText header.source.port) ++ blank ++
      Bytes.ofText (portText header.destination.port) ++ Bytes.crlf := by
  rw [wire, Header.text, words, ofText_intercalate, ← intercalate_words]
  rfl

theorem length_portText_le (port : UInt16) : (Bytes.ofText (portText port)).length ≤ 5 := by
  rw [length_ofText_of_isGraphicText (isGraphicText_portText port), portText, String.toList_ofList]
  exact length_decimal_uint16 port

/-- How long a line is at most, by its hosts. -/
theorem length_wire_le (header : Header) :
    header.wire.length ≤ 23 + (Bytes.ofText header.family.word).length +
      (Bytes.ofText header.source.host.text).length +
      (Bytes.ofText header.destination.host.text).length := by
  have hsource := length_portText_le header.source.port
  have hdestination := length_portText_le header.destination.port
  rw [wire_eq]
  simp only [List.length_append, show (Bytes.ofText "PROXY ").length = 6 from rfl,
    show blank.length = 1 from rfl, show Bytes.crlf.length = 2 from rfl]
  omega

/-- A line with two addresses of its family fits. -/
theorem length_wire_le_of_agreesOnIp {header : Header} (h : header.AgreesOnIp) :
    header.wire.length ≤ maxLength := by
  refine Nat.le_trans header.length_wire_le ?_
  rcases h with ⟨hfamily, ⟨a, ha⟩, b, hb⟩ | ⟨hfamily, ⟨a, ha⟩, b, hb⟩
  · have hsource := a.length_chars_le
    have hdestination := b.length_chars_le
    rw [hfamily, ha, hb, length_ofText_of_isGraphicText (isGraphicText_text_v4 a),
      length_ofText_of_isGraphicText (isGraphicText_text_v4 b)]
    simp only [Host.text, Address.Ip.text, Address.Ip.chars, String.toList_ofList, maxLength,
      show (Bytes.ofText Family.tcp4.word).length = 4 from rfl]
    omega
  · have hsource := a.length_chars_le
    have hdestination := b.length_chars_le
    rw [hfamily, ha, hb, length_ofText_of_isGraphicText (isGraphicText_text_v6 a),
      length_ofText_of_isGraphicText (isGraphicText_text_v6 b)]
    simp only [Host.text, Address.Ip.text, Address.Ip.chars, String.toList_ofList, maxLength,
      show (Bytes.ofText Family.tcp6.word).length = 4 from rfl]
    omega

/-! ## Reading the written line -/

theorem namesPort_portText (port : UInt16) : NamesPort (Bytes.ofText (portText port)) port := by
  have hread : portOf? (Bytes.chars (Bytes.ofText (portText port))) = some port := by
    rw [chars_ofText_of_isGraphicText (isGraphicText_portText port), portText,
      String.toList_ofList, portOf?_decimal]
  exact (portOf?_chars_eq_some_iff.mp hread).2

/-- A host that a family can name, with the word that names it. -/
theorem namesHost_v4 (ip : Address.V4) :
    NamesHost .tcp4 (Bytes.ofText (Host.text (.ip (.v4 ip)))) (.ip (.v4 ip)) := by
  refine .v4 ?_
  rw [chars_ofText_of_isGraphicText (isGraphicText_text_v4 ip)]
  simp only [Host.text, Address.Ip.text, Address.Ip.chars, String.toList_ofList]
  exact ip.ofChars?_chars

theorem namesHost_v6 (ip : Address.V6) :
    NamesHost .tcp6 (Bytes.ofText (Host.text (.ip (.v6 ip)))) (.ip (.v6 ip)) := by
  refine .v6 ?_
  rw [chars_ofText_of_isGraphicText (isGraphicText_text_v6 ip)]
  simp only [Host.text, Address.Ip.text, Address.Ip.chars, String.toList_ofList]
  exact ip.ofChars?_chars

/-- A line says its header when its hosts have words that name them. -/
theorem says_wire {header : Header} (hlength : header.wire.length ≤ maxLength)
    (hsource : IsGraphicText header.source.host.text)
    (hdestination : IsGraphicText header.destination.host.text)
    (hnames : NamesHost header.family (Bytes.ofText header.source.host.text) header.source.host)
    (hnames' : NamesHost header.family (Bytes.ofText header.destination.host.text)
      header.destination.host) :
    Says header.wire header :=
  ⟨hlength, _, _, _, _, header.wire_eq, isWord_ofText_iff.mpr hsource,
    isWord_ofText_iff.mpr hdestination, isWord_ofText_iff.mpr (isGraphicText_portText _),
    isWord_ofText_iff.mpr (isGraphicText_portText _), hnames, hnames', namesPort_portText _,
    namesPort_portText _⟩

/-- The line of a well-formed header says that header. -/
theorem WellFormed.says_wire {header : Header} (h : header.WellFormed) :
    Says header.wire header := by
  rcases h with hip | ⟨hfamily, ⟨s, hs, hsgraphic⟩, ⟨d, hd, hdgraphic⟩, hlength⟩
  · have hlength := length_wire_le_of_agreesOnIp hip
    rcases hip with ⟨hfamily, ⟨a, ha⟩, b, hb⟩ | ⟨hfamily, ⟨a, ha⟩, b, hb⟩
    · refine Header.says_wire hlength ?_ ?_ ?_ ?_
      · rw [ha]; exact isGraphicText_text_v4 a
      · rw [hb]; exact isGraphicText_text_v4 b
      · rw [hfamily, ha]; exact namesHost_v4 a
      · rw [hfamily, hb]; exact namesHost_v4 b
    · refine Header.says_wire hlength ?_ ?_ ?_ ?_
      · rw [ha]; exact isGraphicText_text_v6 a
      · rw [hb]; exact isGraphicText_text_v6 b
      · rw [hfamily, ha]; exact namesHost_v6 a
      · rw [hfamily, hb]; exact namesHost_v6 b
  · refine Header.says_wire hlength ?_ ?_ ?_ ?_
    · rw [hs]; exact hsgraphic
    · rw [hd]; exact hdgraphic
    · rw [hfamily, hs]; exact .token rfl
    · rw [hfamily, hd]; exact .token rfl

/-- What a line says is well formed, up to the length of its own line. -/
theorem Says.agreesOnIp_or {line : Bytes} {header : Header} (h : Says line header) :
    header.AgreesOnIp ∨ (header.family = .unknown ∧ header.source.host.IsToken ∧
      header.destination.host.IsToken) := by
  obtain ⟨_, source, destination, _, _, _, hsourceWord, hdestinationWord, _, _, hsource,
    hdestination, _, _⟩ := h
  obtain ⟨family, ⟨sourceHost, sourcePort⟩, ⟨destinationHost, destinationPort⟩⟩ := header
  dsimp only at hsource hdestination
  cases hsource with
  | v4 =>
    cases hdestination with
    | v4 => exact Or.inl (Or.inl ⟨rfl, ⟨_, rfl⟩, _, rfl⟩)
  | v6 =>
    cases hdestination with
    | v6 => exact Or.inl (Or.inr ⟨rfl, ⟨_, rfl⟩, _, rfl⟩)
  | token hs =>
    cases hdestination with
    | token hd =>
      rw [hs, isWord_ofText_iff] at hsourceWord
      rw [hd, isWord_ofText_iff] at hdestinationWord
      exact Or.inr ⟨rfl, ⟨_, rfl, hsourceWord⟩, _, rfl, hdestinationWord⟩

/-- **Writing and reading agree exactly on the well-formed headers**, and a line with two addresses
of its family always fits. -/
theorem parse_wire_eq_ok_iff (header : Header) :
    (parse header.wire = .ok header ↔ header.WellFormed) ∧
      (header.AgreesOnIp → header.wire.length ≤ maxLength) := by
  refine ⟨⟨fun h => ?_, fun h => parse_of_says h.says_wire⟩, length_wire_le_of_agreesOnIp⟩
  have hsays := says_of_parse h
  rcases hsays.agreesOnIp_or with hip | ⟨hfamily, hsource, hdestination⟩
  · exact Or.inl hip
  · exact Or.inr ⟨hfamily, hsource, hdestination, hsays.1⟩

/-- A header from an IPv4-mapped address to an address with a run of zeros. -/
def mappedToLoopback : Header :=
  ⟨.tcp6, ⟨.ip (.v6 ⟨[0, 0, 0, 0, 0, 0xFFFF, 0x7F00, 1], rfl⟩), 56324⟩,
    ⟨.ip (.v6 ⟨[0, 0, 0, 0, 0, 0, 0, 1], rfl⟩), 443⟩⟩

/-- Both written forms of an IPv6 address are read back. -/
theorem parse_wire_mappedToLoopback :
    mappedToLoopback.AgreesOnIp ∧ parse mappedToLoopback.wire = .ok mappedToLoopback ∧
      mappedToLoopback.wire.length ≤ maxLength := by
  have hagrees : mappedToLoopback.AgreesOnIp := Or.inr ⟨rfl, ⟨_, rfl⟩, _, rfl⟩
  have hboth := parse_wire_eq_ok_iff mappedToLoopback
  exact ⟨hagrees, hboth.1.mpr (Or.inl hagrees), hboth.2 hagrees⟩

end Header

end ProxyGate
