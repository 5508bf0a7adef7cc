import ProxyGate.Address.Socket
import ProxyGate.Proofs.Address.V6

/-!
# Socket addresses written and read back

`Socket.ofChars?_chars` is the round trip over all addresses with their ports and scopes: the colon
of an IPv4 text is the one before its port, and the bracket and the percent sign of an IPv6 text are
the ones that were written.

Two more facts are about texts of any kind: `ofChars?_v4_colon` says what may follow an IPv4 address
and its colon, and `exists_port_suffix` that every text that is read ends in a port.
-/

namespace ProxyGate.Address.Socket

open ProxyGate.Text

theorem colonPort?_eq_some_iff {text : List Char} {port : UInt16} :
    colonPort? text = some port ↔ ∃ digits, text = ':' :: digits ∧ portOf? digits = some port := by
  unfold colonPort?
  split
  · rename_i digits
    simp
  · rename_i hcolon
    simp only [reduceCtorEq, false_iff, not_exists, not_and]
    intro digits htext
    exact absurd htext (hcolon digits)

/-! ## IPv4 -/

theorem ofCharsV4?_chars_colon (ip : V4) (rest : List Char) :
    ofCharsV4? (ip.chars ++ ':' :: rest) = (portOf? rest).map (.v4 ip) := by
  have hcolon : ':' ∉ ip.chars := V4.not_mem_chars ip (by decide) (by decide)
  obtain ⟨hfront, hback⟩ := takeWhile_ne_append hcolon (':' :: rest) (by simp)
  unfold ofCharsV4?
  rw [hfront, hback, V4.ofChars?_chars, colonPort?]
  cases portOf? rest <;> rfl

/-- An IPv4 text does not begin with a bracket. -/
theorem ofCharsV6?_chars_v4 (ip : V4) (rest : List Char) :
    ofCharsV6? (ip.chars ++ rest) = none := by
  unfold ofCharsV6?
  split
  · rename_i inside hbracket
    have hhead : (ip.chars ++ rest).head? = some '[' := by
      rw [hbracket]
      rfl
    exact absurd hhead (V4.head?_chars_append_ne ip rest (by decide) (by decide))
  · rfl

/-- Behind an IPv4 address and a colon a port is read, and nothing else. -/
theorem ofChars?_v4_colon (ip : V4) (rest : List Char) :
    ofChars? (ip.chars ++ ':' :: rest) = (portOf? rest).map (.v4 ip) := by
  rw [ofChars?, ofCharsV4?_chars_colon, ofCharsV6?_chars_v4, Option.or_none]

/-! ## IPv6 -/

/-- A written scope is read back. -/
theorem scopeOf?_scopeChars (scope : UInt32) : scopeOf? (scopeChars scope) = some scope := by
  unfold scopeChars
  split
  · rename_i hzero
    rw [hzero]
    rfl
  · have hlt := scope.toNat_lt
    show ((natOf? 10 (decimal scope.toNat)).bind (atMost? 4294967295)).map UInt32.ofNat = _
    rw [decimal, natOf?_toDigits (by decide) (by decide), Option.bind_some, atMost?,
      if_pos (by omega), Option.map_some, UInt32.ofNat_toNat]

theorem mem_scopeChars {scope : UInt32} {c : Char} (h : c ∈ scopeChars scope) :
    c = '%' ∨ c.isDigit := by
  unfold scopeChars at h
  split at h
  · exact absurd h List.not_mem_nil
  · rcases List.mem_cons.mp h with hsign | hdigit
    · exact Or.inl hsign
    · exact Or.inr (Nat.isDigit_of_mem_toDigits (by decide) (by decide) hdigit)

/-- A text with a bracket in front is no IPv4 address with a port. -/
theorem ofCharsV4?_bracket (rest : List Char) : ofCharsV4? ('[' :: rest) = none := by
  have hnone : V4.ofChars? (('[' :: rest).takeWhile (· ≠ ':')) = none := by
    cases h : V4.ofChars? (('[' :: rest).takeWhile (· ≠ ':')) with
    | none => rfl
    | some ip =>
      rcases V4.eq_dot_or_isDigit_of_ofChars? h (c := '[') (by simp) with hdot | hdigit
      · exact absurd hdot (by decide)
      · exact absurd hdigit (by decide)
  unfold ofCharsV4?
  rw [hnone]
  rfl

theorem ofCharsV6?_chars (ip : V6) (port : UInt16) (scope : UInt32) :
    ofCharsV6? (v6 ip port scope).chars = some (.v6 ip port scope) := by
  have hbracket : ']' ∉ ip.chars ++ scopeChars scope := by
    rw [List.mem_append, not_or]
    refine ⟨V6.not_mem_chars ip (by decide) (by decide) (by decide), fun hc => ?_⟩
    rcases mem_scopeChars hc with hsign | hdigit
    · exact absurd hsign (by decide)
    · exact absurd hdigit (by decide)
  have hsign : '%' ∉ ip.chars := V6.not_mem_chars ip (by decide) (by decide) (by decide)
  have hscope : ∀ c, (scopeChars scope).head? = some c → c = '%' := by
    unfold scopeChars
    split <;> simp
  obtain ⟨hinside, hbehind⟩ :=
    takeWhile_ne_append hbracket (']' :: ':' :: decimal port.toNat) (by simp)
  obtain ⟨hip, hscope⟩ := takeWhile_ne_append hsign (scopeChars scope) hscope
  show ofCharsV6? ('[' :: (ip.chars ++ scopeChars scope) ++ ']' :: ':' :: decimal port.toNat) = _
  rw [List.cons_append, ofCharsV6?, hinside, hbehind, hip, hscope, V6.ofChars?_chars,
    scopeOf?_scopeChars, List.tail_cons, colonPort?, portOf?_decimal]
  rfl

/-! ## Either version -/

/-- A written socket address is read back. -/
theorem ofChars?_chars (address : Socket) : ofChars? address.chars = some address := by
  cases address with
  | v4 ip port =>
    show ofChars? (ip.chars ++ ':' :: decimal port.toNat) = _
    rw [ofChars?_v4_colon, portOf?_decimal, Option.map_some]
  | v6 ip port scope =>
    rw [ofChars?, ofCharsV6?_chars]
    show (ofCharsV4? ('[' :: _)).or _ = _
    rw [ofCharsV4?_bracket, Option.none_or]

/-- A text that is read ends in a port. -/
theorem exists_port_suffix {text : List Char} {address : Socket} (h : ofChars? text = some address) :
    ∃ digits, digits <:+ text ∧ portOf? digits = some address.port := by
  -- for either version the port stands behind a colon that closes the rest of the text
  have hbehind : ∀ {rest : List Char} {port : UInt16}, rest <:+ text →
      colonPort? rest = some port → ∃ digits, digits <:+ text ∧ portOf? digits = some port := by
    intro rest port hrest hport
    obtain ⟨digits, rfl, hdigits⟩ := colonPort?_eq_some_iff.mp hport
    exact ⟨digits, (List.suffix_cons ':' digits).trans hrest, hdigits⟩
  rw [ofChars?, Option.or_eq_some_iff] at h
  rcases h with h | ⟨-, h⟩
  · unfold ofCharsV4? at h
    simp only [Option.bind_eq_bind, Option.bind_eq_some_iff] at h
    obtain ⟨ip, _, port, hport, h⟩ := h
    cases h
    exact hbehind (List.dropWhile_suffix _) hport
  · unfold ofCharsV6? at h
    split at h
    · rename_i chars
      simp only [Option.bind_eq_bind, Option.bind_eq_some_iff] at h
      obtain ⟨ip, _, scope, _, port, hport, h⟩ := h
      cases h
      have hsuffix : (chars.dropWhile (· ≠ ']')).tail <:+ '[' :: chars :=
        ((List.tail_suffix _).trans (List.dropWhile_suffix _)).trans (List.suffix_cons _ _)
      exact hbehind hsuffix hport
    · cases h

end ProxyGate.Address.Socket
