import ProxyGate.Proofs.Header.RoundTrip

/-!
# The canonical form of a header line

A header can be said in many lines: ports may have leading zeros, and an IPv6 address has many
spellings.  Writing the header that a line says picks one of them.  `wire_canonical` says that this
is a canonical form: it always fits, says the same header, is its own canonical form, and is shared
by exactly those lines that say the same header.

For the unknown family the addresses are tokens, which are kept as they are.  `DropsZeros` says that
only the leading zeros of the ports go, and `Says.dropsZeros` that this is so, from which the
bound for that family follows.
-/

namespace ProxyGate.Header

open ProxyGate.Text

/-! ## Ports without leading zeros -/

/-- A port as it is written: digits, the first of which is a zero only when it is alone. -/
def IsPlainPort (word : Bytes) : Prop :=
  word ≠ [] ∧ (∀ byte ∈ word, 48 ≤ byte.toNat ∧ byte.toNat ≤ 57) ∧
    (word.head? = some 48 → word = [48])

/-- The bytes of a written port are its digits. -/
theorem chars_ofText_portText (port : UInt16) :
    Bytes.chars (Bytes.ofText (portText port)) = decimal port.toNat := by
  rw [chars_ofText_of_isGraphicText (isGraphicText_portText port), portText, String.toList_ofList]

theorem isPlainPort_portText (port : UInt16) : IsPlainPort (Bytes.ofText (portText port)) := by
  refine ⟨(isWord_ofText_iff.mpr (isGraphicText_portText port)).1, (namesPort_portText port).1, ?_⟩
  intro hhead
  rcases Nat.eq_zero_or_pos port.toNat with hzero | hpos
  · rw [portText, hzero]
    rfl
  · have hne : (decimal port.toNat).head? ≠ some '0' :=
      head?_toDigits_ne_zero (by decide) (by decide) hpos
    refine absurd ?_ hne
    rw [← chars_ofText_portText, Bytes.chars, List.head?_map, hhead]
    rfl

/-- A word that names a port is the port as it is written, but for zeros in front. -/
theorem NamesPort.exists_eq_zeros_append {word : Bytes} {port : UInt16} (hne : word ≠ [])
    (h : NamesPort word port) :
    ∃ zeros, word = List.replicate zeros 48 ++ Bytes.ofText (portText port) := by
  obtain ⟨hchars, hdigits, hvalue⟩ :=
    portOf?_eq_some_iff.mp (portOf?_chars_eq_some_iff.mpr ⟨hne, h⟩)
  obtain ⟨zeros, hzeros⟩ := exists_eq_zeros_append_toDigits hchars hdigits
  refine ⟨zeros, Bytes.chars_injective ?_⟩
  rw [hzeros, hvalue, ← decimal, ← chars_ofText_portText, Bytes.chars, Bytes.chars,
    List.map_append, List.map_replicate]
  rfl

/-! ## Lines of the unknown family -/

/-- The line of the unknown family with the given words behind the second. -/
def unknownLine (source destination sourcePort destinationPort : Bytes) : Bytes :=
  Bytes.ofText "PROXY " ++ Bytes.ofText Family.unknown.word ++ blank ++ source ++ blank ++
    destination ++ blank ++ sourcePort ++ blank ++ destinationPort ++ Bytes.crlf

/-- Of two lines of the unknown family the second has no zeros in front of its ports, and is the
first in all else. -/
def DropsZeros (line plain : Bytes) : Prop :=
  ∃ (source destination sourcePort destinationPort : Bytes) (sourceZeros destinationZeros : Nat),
    IsWord source ∧ IsWord destination ∧ IsPlainPort sourcePort ∧ IsPlainPort destinationPort ∧
    line = unknownLine source destination (List.replicate sourceZeros 48 ++ sourcePort)
      (List.replicate destinationZeros 48 ++ destinationPort) ∧
    plain = unknownLine source destination sourcePort destinationPort

theorem DropsZeros.length_le {line plain : Bytes} (h : DropsZeros line plain) :
    plain.length ≤ line.length := by
  obtain ⟨source, destination, sourcePort, destinationPort, sourceZeros, destinationZeros, _, _, _,
    _, rfl, rfl⟩ := h
  simp only [unknownLine, List.length_append]
  omega

/-- A header of the unknown family is written as the line that says it, without leading zeros. -/
theorem Says.dropsZeros {line : Bytes} {header : Header} (h : Says line header)
    (hfamily : header.family = .unknown) : DropsZeros line header.wire := by
  obtain ⟨_, source, destination, sourcePort, destinationPort, hline, hsource, hdestination,
    hsourcePort, hdestinationPort, hnames, hnames', hport, hport'⟩ := h
  obtain ⟨family, ⟨sourceHost, sourceNumber⟩, ⟨destinationHost, destinationNumber⟩⟩ := header
  dsimp only at hfamily hnames hnames' hport hport' hline
  subst hfamily
  obtain ⟨sourceZeros, hsourceZeros⟩ := hport.exists_eq_zeros_append hsourcePort.1
  obtain ⟨destinationZeros, hdestinationZeros⟩ := hport'.exists_eq_zeros_append hdestinationPort.1
  cases hnames with
  | token hs =>
    cases hnames' with
    | token hd =>
      refine ⟨source, destination, _, _, sourceZeros, destinationZeros, hsource, hdestination,
        isPlainPort_portText sourceNumber, isPlainPort_portText destinationNumber, ?_, ?_⟩
      · rw [hline, hsourceZeros, hdestinationZeros, unknownLine]
      · rw [wire_eq, hs, hd, unknownLine]
        simp only [Host.text]

/-! ## The canonical form -/

/-- What a line says is well formed. -/
theorem Says.wellFormed {line : Bytes} {header : Header} (h : Says line header) :
    header.WellFormed := by
  rcases h.agreesOnIp_or with hip | ⟨hfamily, hsource, hdestination⟩
  · exact Or.inl hip
  · exact Or.inr ⟨hfamily, hsource, hdestination,
      Nat.le_trans (h.dropsZeros hfamily).length_le h.1⟩

/-- **Writing what a line says puts it into canonical form.**

* The form fits into a line, is read as the same header, and is its own canonical form.
* Two lines have the same form exactly when they say the same header.
* Under the unknown family the form is not longer than the line, and differs from it only by the
  leading zeros of the ports. -/
theorem wire_canonical {line : Bytes} {header : Header} (h : parse line = .ok header) :
    header.wire.length ≤ maxLength ∧ parse header.wire = .ok header ∧
      (∀ again, parse header.wire = .ok again → again.wire = header.wire) ∧
      (∀ other header', parse other = .ok header' →
        (header'.wire = header.wire ↔ header' = header)) ∧
      (header.family = .unknown →
        header.wire.length ≤ line.length ∧ DropsZeros line header.wire) := by
  have hsays := says_of_parse h
  have hagain : ∀ {other header'}, parse other = .ok header' → parse header'.wire = .ok header' :=
    fun hother => parse_of_says (says_of_parse hother).wellFormed.says_wire
  have hform := hagain h
  refine ⟨(says_of_parse hform).1, hform, fun again hread => ?_, fun other header' hother => ?_,
    fun hfamily => ?_⟩
  · rw [hform, Except.ok.injEq] at hread
    rw [hread]
  · constructor
    · intro hwire
      have hread := hagain hother
      rw [hwire, hform, Except.ok.injEq] at hread
      exact hread.symm
    · rintro rfl
      rfl
  · have hdrops := hsays.dropsZeros hfamily
    exact ⟨hdrops.length_le, hdrops⟩

/-- A line with zeros in front of both ports. -/
def padded : Bytes := Bytes.ofText "PROXY UNKNOWN gw1 :: 0080 000\r\n"

/-- The leading zeros go, and the tokens stay. -/
theorem wire_canonical_padded :
    ∃ header, parse padded = .ok header ∧
      header.wire = Bytes.ofText "PROXY UNKNOWN gw1 :: 80 0\r\n" ∧
      parse header.wire = .ok header ∧ DropsZeros padded header.wire ∧
      ∀ header', parse (Bytes.ofText "PROXY UNKNOWN gw1 :: 80 00\r\n") = .ok header' →
        header' = header := by
  have hparse : parse padded = .ok ⟨.unknown, ⟨.token "gw1", 80⟩, ⟨.token "::", 0⟩⟩ := rfl
  obtain ⟨_, hform, _, hshared, hdrops⟩ := wire_canonical hparse
  refine ⟨_, hparse, rfl, hform, (hdrops rfl).2, fun header' hother => ?_⟩
  refine (hshared _ header' hother).mp ?_
  have hread : parse (Bytes.ofText "PROXY UNKNOWN gw1 :: 80 00\r\n") =
      .ok ⟨.unknown, ⟨.token "gw1", 80⟩, ⟨.token "::", 0⟩⟩ := rfl
  rw [hread, Except.ok.injEq] at hother
  rw [← hother]

end ProxyGate.Header
