import ProxyGate.Text.Digits
import Mathlib.Data.List.Induction
import Mathlib.Tactic.SplitIfs

/-!
# Numbers written and read back

`Text.natOf?` reads back what `Nat.toDigits` writes, in every base up to sixteen.  This file proves
that, says which texts are read in base ten, and bounds the written texts of the fixed-width numbers
that addresses and header lines are made of.

* `natOf?_toDigits` is the round trip.
* `exists_eq_zeros_append_toDigits` is the way back: a run of digits is what is written for its
  value, but for zeros in front.
* `natFrom?_ten_eq_some_iff` and `portOf?_eq_some_iff` say what the decimal readers accept, with the
  value as `Nat.ofDigitChars` computes it.
* `isSome_digitOf?_of_mem_toDigits` and `isSome_digitOf?_of_natFrom?` are the facts about single
  characters that separators need.
-/

namespace ProxyGate.Text

/-! ## One digit -/

/-- A written digit is read back. -/
theorem digitOf?_digitChar {base digit : Nat} (hbase : base ≤ 16) (hdigit : digit < base) :
    digitOf? base digit.digitChar = some digit := by
  have hall : ∀ d : Fin 16, digitOf? 16 (Nat.digitChar d) = some d.val := by decide
  have h := hall ⟨digit, by omega⟩
  simp only [digitOf?, Option.filter_eq_some_iff] at h ⊢
  exact ⟨h.1, by simpa using hdigit⟩

theorem char_le_iff_toNat {c d : Char} : c ≤ d ↔ c.toNat ≤ d.toNat := Iff.rfl

/-- A decimal digit by its number. -/
theorem isDigit_iff_toNat (c : Char) : c.isDigit = true ↔ 48 ≤ c.toNat ∧ c.toNat ≤ 57 := by
  simp only [Char.isDigit, ge_iff_le, Bool.and_eq_true, decide_eq_true_eq]
  exact Iff.rfl

/-- The digits of base ten are the decimal digits. -/
theorem digitOf?_ten (c : Char) :
    digitOf? 10 c = if c.isDigit then some (c.toNat - '0'.toNat) else none := by
  simp only [digitOf?, isDigit_iff_toNat, char_le_iff_toNat, Char.reduceToNat]
  split_ifs with hdec hlow hupp
  · simp; omega
  · simp
  · simp
  · rfl

/-- A decimal digit is a digit in base sixteen too. -/
theorem isSome_digitOf?_of_isDigit {c : Char} (h : c.isDigit = true) :
    (digitOf? 16 c).isSome := by
  have hdec : '0' ≤ c ∧ c ≤ '9' := (isDigit_iff_toNat c).mp h
  have hlt : c.toNat - 48 < 16 := by
    have := ((isDigit_iff_toNat c).mp h).2
    omega
  simp only [digitOf?, if_pos hdec, Char.reduceToNat, Option.isSome_filter]
  simpa using hlt

/-- What stands for a digit in some base is a decimal digit or a letter. -/
theorem toNat_of_isSome_digitOf? {base : Nat} {c : Char} (h : (digitOf? base c).isSome) :
    48 ≤ c.toNat ∧ c.toNat ≤ 57 ∨ 65 ≤ c.toNat ∧ c.toNat ≤ 70 ∨
      97 ≤ c.toNat ∧ c.toNat ≤ 102 := by
  simp only [digitOf?, char_le_iff_toNat, Char.reduceToNat] at h
  split_ifs at h with hdec hlow hupp
  · exact Or.inl hdec
  · exact Or.inr (Or.inr hlow)
  · exact Or.inr (Or.inl hupp)
  · simp at h

/-! ## Runs of digits -/

theorem natFrom?_append (base seen : Nat) (front back : List Char) :
    natFrom? base seen (front ++ back) =
      (natFrom? base seen front).bind (natFrom? base · back) := by
  induction front generalizing seen with
  | nil => rfl
  | cons c front ih =>
    simp only [List.cons_append, natFrom?, Option.bind_eq_bind, Option.bind_assoc]
    cases digitOf? base c with
    | none => rfl
    | some digit => exact ih _

/-- Every character of a run that is read stands for a digit. -/
theorem isSome_digitOf?_of_natFrom? {base seen value : Nat} {digits : List Char}
    (h : natFrom? base seen digits = some value) {c : Char} (hc : c ∈ digits) :
    (digitOf? base c).isSome := by
  induction digits generalizing seen with
  | nil => simp at hc
  | cons d digits ih =>
    simp only [natFrom?, Option.bind_eq_bind, Option.bind_eq_some_iff] at h
    obtain ⟨digit, hd, hrest⟩ := h
    rcases List.mem_cons.mp hc with rfl | hc
    · rw [hd]; rfl
    · exact ih hrest hc

/-- Every character of a written number stands for a digit. -/
theorem isSome_digitOf?_of_mem_toDigits {base value : Nat} {c : Char}
    (hlow : 1 < base) (hhigh : base ≤ 16) (hc : c ∈ Nat.toDigits base value) :
    (digitOf? base c).isSome := by
  induction value using Nat.base_induction base hlow with
  | single digit hdigit =>
    rw [Nat.toDigits_of_lt_base hdigit, List.mem_singleton] at hc
    rw [hc, digitOf?_digitChar hhigh hdigit]; rfl
  | digit value digit hdigit hvalue ih =>
    rw [← Nat.toDigits_append_toDigits hlow hvalue hdigit, Nat.toDigits_of_lt_base hdigit,
      List.mem_append, List.mem_singleton] at hc
    rcases hc with hc | rfl
    · exact ih hc
    · rw [digitOf?_digitChar hhigh hdigit]; rfl

/-- A written number is read back. -/
theorem natFrom?_toDigits {base : Nat} (hlow : 1 < base) (hhigh : base ≤ 16) (value : Nat) :
    natFrom? base 0 (Nat.toDigits base value) = some value := by
  induction value using Nat.base_induction base hlow with
  | single digit hdigit =>
    rw [Nat.toDigits_of_lt_base hdigit]
    simp [natFrom?, digitOf?_digitChar hhigh hdigit]
  | digit value digit hdigit hvalue ih =>
    rw [← Nat.toDigits_append_toDigits hlow hvalue hdigit, natFrom?_append, ih,
      Nat.toDigits_of_lt_base hdigit]
    simp [natFrom?, digitOf?_digitChar hhigh hdigit, Nat.mul_comm]

theorem natOf?_toDigits {base : Nat} (hlow : 1 < base) (hhigh : base ≤ 16) (value : Nat) :
    natOf? base (Nat.toDigits base value) = some value := by
  rw [natOf?, if_neg Nat.toDigits_ne_nil]
  exact natFrom?_toDigits hlow hhigh value

/-- No number but zero is written with a leading zero. -/
theorem head?_toDigits_ne_zero {base value : Nat} (hlow : 1 < base) (hhigh : base ≤ 16)
    (hvalue : 0 < value) : (Nat.toDigits base value).head? ≠ some '0' := by
  induction value using Nat.base_induction base hlow with
  | single digit hdigit =>
    intro hhead
    rw [Nat.toDigits_of_lt_base hdigit, List.head?_cons, Option.some.injEq] at hhead
    have hread := digitOf?_digitChar hhigh hdigit
    have hzero : digitOf? base '0' = some 0 :=
      digitOf?_digitChar hhigh (Nat.lt_trans Nat.zero_lt_one hlow)
    rw [hhead, hzero, Option.some.injEq] at hread
    omega
  | digit value digit hdigit hpos ih =>
    rw [← Nat.toDigits_append_toDigits hlow hpos hdigit]
    cases hdigits : Nat.toDigits base value with
    | nil => exact absurd hdigits Nat.toDigits_ne_nil
    | cons first rest =>
      rw [hdigits] at ih
      exact ih hpos

/-! ## Decimal numbers -/

/-- What base ten reads, and with which value. -/
theorem natFrom?_ten_eq_some_iff {seen value : Nat} {digits : List Char} :
    natFrom? 10 seen digits = some value ↔
      (∀ c ∈ digits, c.isDigit) ∧ Nat.ofDigitChars 10 digits seen = value := by
  induction digits generalizing seen with
  | nil => simp [natFrom?]
  | cons c digits ih =>
    simp only [natFrom?, Option.bind_eq_bind, digitOf?_ten, List.forall_mem_cons,
      Nat.ofDigitChars_cons]
    by_cases hc : c.isDigit
    · simp only [hc, if_true, Option.bind_some, ih, true_and, Nat.mul_comm seen 10]
    · simp [hc]

/-- What is read as a port, and with which number. -/
theorem portOf?_eq_some_iff {digits : List Char} {port : UInt16} :
    portOf? digits = some port ↔
      digits ≠ [] ∧ (∀ c ∈ digits, c.isDigit) ∧ Nat.ofDigitChars 10 digits 0 = port.toNat := by
  by_cases hnil : digits = []
  · simp [portOf?, natOf?, hnil]
  · rw [portOf?, natOf?, if_neg hnil]
    simp only [Option.map_eq_some_iff, Option.bind_eq_some_iff, natFrom?_ten_eq_some_iff, atMost?,
      Option.ite_none_right_eq_some, Option.some.injEq, ne_eq, hnil, not_false_eq_true, true_and]
    constructor
    · rintro ⟨value, ⟨_, ⟨hdigits, rfl⟩, hle, rfl⟩, rfl⟩
      refine ⟨hdigits, ?_⟩
      rw [UInt16.toNat_ofNat']
      omega
    · rintro ⟨hdigits, hvalue⟩
      have hlt := port.toNat_lt
      exact ⟨_, ⟨_, ⟨hdigits, rfl⟩, by omega, rfl⟩, by rw [hvalue, UInt16.ofNat_toNat]⟩

/-- A decimal digit is written for its value. -/
theorem toDigits_of_isDigit {c : Char} (h : c.isDigit = true) :
    Nat.toDigits 10 (c.toNat - 48) = [c] := by
  rw [isDigit_iff_toNat] at h
  rw [Nat.toDigits_of_lt_base (by omega)]
  congr 1
  apply Char.toNat_inj.mp
  rw [Nat.toNat_digitChar_of_lt_ten (by omega)]
  omega

/-- A run of decimal digits is the written form of its value, but for zeros in front. -/
theorem exists_eq_zeros_append_toDigits {digits : List Char} (hne : digits ≠ [])
    (h : ∀ c ∈ digits, c.isDigit) :
    ∃ zeros, digits =
      List.replicate zeros '0' ++ Nat.toDigits 10 (Nat.ofDigitChars 10 digits 0) := by
  induction digits using List.reverseRecOn with
  | nil => exact absurd rfl hne
  | append_singleton digits c ih =>
    rw [List.forall_mem_append, List.forall_mem_singleton] at h
    have hlow := (isDigit_iff_toNat c).mp h.2
    rw [Nat.ofDigitChars_append, Nat.ofDigitChars_cons, Nat.ofDigitChars_nil,
      show '0'.toNat = 48 from rfl]
    by_cases hnil : digits = []
    · refine ⟨0, ?_⟩
      rw [hnil, Nat.ofDigitChars_nil, Nat.mul_zero, Nat.zero_add, toDigits_of_isDigit h.2]
      rfl
    · obtain ⟨zeros, hzeros⟩ := ih hnil h.1
      rcases Nat.eq_zero_or_pos (Nat.ofDigitChars 10 digits 0) with hvalue | hvalue
      · -- nothing but zeros so far, the last of which was the written form
        refine ⟨zeros + 1, ?_⟩
        rw [hvalue, Nat.mul_zero, Nat.zero_add, toDigits_of_isDigit h.2]
        rw [hvalue, Nat.toDigits_zero, ← List.replicate_succ'] at hzeros
        rw [← hzeros]
      · refine ⟨zeros, ?_⟩
        rw [← Nat.toDigits_append_toDigits (by decide) hvalue (by omega), toDigits_of_isDigit h.2,
          ← List.append_assoc, ← hzeros]

/-- A written port is read back. -/
theorem portOf?_decimal (port : UInt16) : portOf? (decimal port.toNat) = some port := by
  rw [portOf?_eq_some_iff]
  refine ⟨Nat.toDigits_ne_nil, ?_, Nat.ofDigitChars_ten_toDigits⟩
  intro c hc
  exact Nat.isDigit_of_mem_toDigits (by decide) (by decide) hc

/-! ## Lengths -/

theorem length_decimal_uint8 (octet : UInt8) : (decimal octet.toNat).length ≤ 3 := by
  rw [decimal, Nat.length_toDigits_le_iff (by decide) (by decide)]
  have := octet.toNat_lt
  omega

theorem length_decimal_uint16 (port : UInt16) : (decimal port.toNat).length ≤ 5 := by
  rw [decimal, Nat.length_toDigits_le_iff (by decide) (by decide)]
  have := port.toNat_lt
  omega

theorem length_hexadecimal_uint16 (group : UInt16) : (hexadecimal group.toNat).length ≤ 4 := by
  rw [hexadecimal, Nat.length_toDigits_le_iff (by decide) (by decide)]
  have := group.toNat_lt
  omega

end ProxyGate.Text
