import ProxyGate.Address.V4
import ProxyGate.Proofs.Text.Digits
import ProxyGate.Proofs.Text.Pieces

/-!
# IPv4 addresses written and read back

`V4.ofChars?_chars` is the round trip over all addresses.  The other facts are what a text that
contains an IPv4 address needs to know about it: which characters it is made of, that one of them is
a dot, and that there are at most fifteen.  `eq_dot_or_isDigit_of_ofChars?` says of every text that
is read, and not only of the written ones, which characters it is made of.
-/

namespace ProxyGate.Address.V4

open ProxyGate.Text

/-- A written octet is read back; it has no leading zero to be refused for. -/
theorem octet?_decimal (octet : UInt8) : octet? (decimal octet.toNat) = some octet := by
  have hlength := length_decimal_uint8 octet
  have hlead : (decimal octet.toNat).head? = some '0' → decimal octet.toNat = ['0'] := by
    intro hhead
    rcases Nat.eq_zero_or_pos octet.toNat with hzero | hpos
    · rw [hzero]; rfl
    · exact absurd hhead (head?_toDigits_ne_zero (by decide) (by decide) hpos)
  rw [octet?, if_neg (by rintro (h | ⟨h, hne⟩); omega; exact hne (hlead h)), decimal,
    natOf?_toDigits (by decide) (by decide)]
  have hlt := octet.toNat_lt
  simp [atMost?, show octet.toNat ≤ 255 by omega]

/-- A character of an IPv4 text is a dot or a digit. -/
theorem eq_dot_or_isDigit_of_mem_chars {ip : V4} {c : Char} (hc : c ∈ ip.chars) :
    c = '.' ∨ c.isDigit := by
  rcases mem_intercalate hc with hdot | ⟨piece, hpiece, hmem⟩
  · exact Or.inl hdot
  · obtain ⟨octet, _, rfl⟩ := List.mem_map.mp hpiece
    exact Or.inr (Nat.isDigit_of_mem_toDigits (by decide) (by decide) hmem)

theorem not_mem_chars (ip : V4) {c : Char} (hdot : c ≠ '.') (hdigit : ¬c.isDigit) :
    c ∉ ip.chars := by
  intro hc
  rcases eq_dot_or_isDigit_of_mem_chars hc with h | h
  · exact hdot h
  · exact hdigit h

/-- There is a dot in an IPv4 text. -/
theorem dot_mem_chars (ip : V4) : '.' ∈ ip.chars := by
  simp [chars]

/-- A text that begins with an IPv4 address begins with a dot or a digit. -/
theorem head?_chars_append_ne (ip : V4) (rest : List Char) {c : Char} (hdot : c ≠ '.')
    (hdigit : ¬c.isDigit) : (ip.chars ++ rest).head? ≠ some c := by
  intro hhead
  obtain ⟨first, others, hcons⟩ :=
    List.exists_cons_of_ne_nil (List.ne_nil_of_mem (dot_mem_chars ip))
  have hfirst : first = c := by simpa [hcons] using hhead
  have hmem : c ∈ ip.chars := by simp [hcons, hfirst]
  exact not_mem_chars ip hdot hdigit hmem

/-- An IPv4 text has at most fifteen characters. -/
theorem length_chars_le (ip : V4) : ip.chars.length ≤ 15 := by
  have hpieces : ∀ piece ∈ [ip.a, ip.b, ip.c, ip.d].map fun octet => decimal octet.toNat,
      piece.length ≤ 3 := by
    intro piece hpiece
    obtain ⟨octet, _, rfl⟩ := List.mem_map.mp hpiece
    exact length_decimal_uint8 octet
  have h := length_intercalate_lt '.' (by simp) hpieces
  simp only [List.length_map, List.length_cons, List.length_nil] at h
  exact Nat.le_of_lt_succ h

/-- The pieces of an IPv4 text are its octets. -/
theorem splitOn_chars (ip : V4) :
    ip.chars.splitOn '.' = [ip.a, ip.b, ip.c, ip.d].map fun octet => decimal octet.toNat := by
  refine List.splitOn_intercalate '.' ?_ (by simp)
  intro piece hpiece hdot
  obtain ⟨octet, _, rfl⟩ := List.mem_map.mp hpiece
  exact absurd (Nat.isDigit_of_mem_toDigits (by decide) (by decide) hdot) (by decide)

/-- A written IPv4 address is read back. -/
theorem ofChars?_chars (ip : V4) : ofChars? ip.chars = some ip := by
  rw [ofChars?, splitOn_chars]
  simp [octet?_decimal]

/-! ## What is read -/

theorem isSome_octet?_of_mapM {pieces : List (List Char)} {octets : List UInt8}
    (h : pieces.mapM octet? = some octets) {piece : List Char} (hpiece : piece ∈ pieces) :
    (octet? piece).isSome := by
  induction pieces generalizing octets with
  | nil => exact absurd hpiece List.not_mem_nil
  | cons first pieces ih =>
    simp only [List.mapM_cons, Option.bind_eq_bind, Option.bind_eq_some_iff] at h
    obtain ⟨octet, hfirst, rest, hrest, _⟩ := h
    rcases List.mem_cons.mp hpiece with rfl | hpiece
    · rw [hfirst]
      rfl
    · exact ih hrest hpiece

/-- What is read as an octet consists of digits. -/
theorem isDigit_of_octet? {digits : List Char} (h : (octet? digits).isSome) {c : Char}
    (hc : c ∈ digits) : c.isDigit := by
  obtain ⟨octet, hoctet⟩ := Option.isSome_iff_exists.mp h
  unfold octet? at hoctet
  rw [Option.ite_none_left_eq_some, Option.map_eq_some_iff] at hoctet
  obtain ⟨_, value, hvalue, _⟩ := hoctet
  rw [Option.bind_eq_some_iff] at hvalue
  obtain ⟨number, hnumber, _⟩ := hvalue
  rw [natOf?, Option.ite_none_left_eq_some] at hnumber
  exact (natFrom?_ten_eq_some_iff.mp hnumber.2).1 c hc

/-- A text that is read as an IPv4 address consists of dots and digits. -/
theorem eq_dot_or_isDigit_of_ofChars? {text : List Char} {ip : V4} (h : ofChars? text = some ip)
    {c : Char} (hc : c ∈ text) : c = '.' ∨ c.isDigit := by
  unfold ofChars? at h
  split at h
  · rename_i hpieces
    have htext : ['.'].intercalate (text.splitOn '.') = text := List.intercalate_splitOn '.'
    rw [← htext] at hc
    rcases mem_intercalate hc with hdot | ⟨piece, hpiece, hmem⟩
    · exact Or.inl hdot
    · exact Or.inr (isDigit_of_octet? (isSome_octet?_of_mapM hpieces hpiece) hmem)
  · cases h

end ProxyGate.Address.V4
