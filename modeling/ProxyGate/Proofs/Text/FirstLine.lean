import ProxyGate.Text.Bytes
import Mathlib.Logic.Basic
import Mathlib.Tactic.ByContra

/-!
# The first line of some bytes

`Bytes.FirstLine bytes length` says, position by position, that the first line of the bytes has this
length with its end.  `crlfAt?_eq_some_iff` is what the search for a line ending computes, and the
rest of the file says how the first line behaves when bytes are appended or cut off.  The last
lemma, `crlfAt?_append_of_none`, is the one a search over growing bytes rests on: only the last of
the old bytes has to be looked at again.
-/

namespace ProxyGate.Bytes

/-- A line ending stands at a position. -/
def CrlfAt (bytes : Bytes) (position : Nat) : Prop :=
  bytes[position]? = some 13 ∧ bytes[position + 1]? = some 10

/-- The first line of the bytes, its end included, has this length. -/
def FirstLine (bytes : Bytes) (length : Nat) : Prop :=
  ∃ position, length = position + crlf.length ∧ CrlfAt bytes position ∧
    ∀ earlier < position, ¬CrlfAt bytes earlier

/-! ## The search for the line ending -/

theorem crlfAt_cons_succ {byte : UInt8} {rest : Bytes} {position : Nat} :
    CrlfAt (byte :: rest) (position + 1) ↔ CrlfAt rest position := by
  simp [CrlfAt]

theorem crlfAt_cons_zero {byte : UInt8} {rest : Bytes} :
    CrlfAt (byte :: rest) 0 ↔ byte = 13 ∧ rest.head? = some 10 := by
  simp [CrlfAt, List.head?_eq_getElem?]

/-- What the search finds: a line ending with none before it. -/
theorem crlfAt?_eq_some_iff {bytes : Bytes} {position : Nat} :
    crlfAt? bytes = some position ↔
      CrlfAt bytes position ∧ ∀ earlier < position, ¬CrlfAt bytes earlier := by
  induction bytes generalizing position with
  | nil => simp [crlfAt?, CrlfAt]
  | cons byte rest ih =>
    rw [crlfAt?]
    by_cases hhere : byte = 13 ∧ rest.head? = some 10
    · rw [if_pos hhere, Option.some.injEq]
      constructor
      · rintro rfl
        exact ⟨crlfAt_cons_zero.mpr hhere, fun earlier h => absurd h (Nat.not_lt_zero _)⟩
      · rintro ⟨_, hfirst⟩
        by_contra hne
        exact hfirst 0 (by omega) (crlfAt_cons_zero.mpr hhere)
    · rw [if_neg hhere]
      cases position with
      | zero =>
        rw [crlfAt_cons_zero]
        simp [hhere]
      | succ position =>
        rw [Option.map_eq_some_iff]
        simp only [Nat.add_right_cancel_iff, exists_eq_right, ih, crlfAt_cons_succ]
        refine and_congr_right fun _ => ⟨fun h earlier hearlier => ?_, fun h earlier hearlier => ?_⟩
        · cases earlier with
          | zero => rwa [crlfAt_cons_zero]
          | succ earlier => exact crlfAt_cons_succ.not.mpr (h earlier (by omega))
        · exact crlfAt_cons_succ.not.mp (h (earlier + 1) (by omega))

/-- The search finds nothing exactly when there is no line ending. -/
theorem crlfAt?_eq_none_iff {bytes : Bytes} :
    crlfAt? bytes = none ↔ ∀ position, ¬CrlfAt bytes position := by
  constructor
  · intro h position hposition
    induction position using Nat.strongRecOn with
    | ind position ih =>
      -- the least position with a line ending would be found
      have hfound := crlfAt?_eq_some_iff.mpr ⟨hposition, fun earlier hlt hearlier =>
        ih earlier hlt hearlier⟩
      rw [h] at hfound
      cases hfound
  · intro h
    cases hfound : crlfAt? bytes with
    | none => rfl
    | some position => exact absurd (crlfAt?_eq_some_iff.mp hfound).1 (h position)

theorem firstLine_iff_crlfAt? {bytes : Bytes} {length : Nat} :
    FirstLine bytes length ↔ ∃ position, crlfAt? bytes = some position ∧
      length = position + crlf.length := by
  simp only [FirstLine, crlfAt?_eq_some_iff]
  exact exists_congr fun position => and_comm

/-! ## First lines and appended bytes -/

theorem CrlfAt.lt_length {bytes : Bytes} {position : Nat} (h : CrlfAt bytes position) :
    position + 1 < bytes.length := by
  have := h.2
  rw [List.getElem?_eq_some_iff] at this
  exact this.1

/-- Bytes behind a line ending do not matter to it. -/
theorem crlfAt_append_of_lt {front : Bytes} {position : Nat} (h : position + 1 < front.length)
    (back : Bytes) : CrlfAt (front ++ back) position ↔ CrlfAt front position := by
  rw [CrlfAt, CrlfAt, List.getElem?_append_left h, List.getElem?_append_left (by omega)]

/-- A line ending that bytes bring with them lies among them or starts right before them. -/
theorem crlfAt_append_of_not {front back : Bytes} {position : Nat}
    (hnone : ∀ earlier, ¬CrlfAt front earlier) (h : CrlfAt (front ++ back) position) :
    front.length - 1 ≤ position := by
  by_contra hlt
  exact hnone position ((crlfAt_append_of_lt (by omega) back).mp h)

theorem FirstLine.le_length {bytes : Bytes} {length : Nat} (h : FirstLine bytes length) :
    length ≤ bytes.length := by
  obtain ⟨position, rfl, hposition, _⟩ := h
  exact hposition.lt_length

theorem FirstLine.unique {bytes : Bytes} {length length' : Nat} (h : FirstLine bytes length)
    (h' : FirstLine bytes length') : length = length' := by
  obtain ⟨position, rfl, hposition, hfirst⟩ := h
  obtain ⟨position', rfl, hposition', hfirst'⟩ := h'
  have hle : position ≤ position' := Nat.le_of_not_lt fun hlt => hfirst position' hlt hposition'
  have hge : position' ≤ position := Nat.le_of_not_lt fun hlt => hfirst' position hlt hposition
  omega

/-- The first line stays the first line when bytes are appended, and a prefix that holds a whole
first line has it already. -/
theorem firstLine_append_iff {front : Bytes} {length : Nat} (h : length ≤ front.length)
    (back : Bytes) : FirstLine (front ++ back) length ↔ FirstLine front length := by
  simp only [FirstLine]
  refine exists_congr fun position => and_congr_right fun hlength => ?_
  have hbound : position + 1 < front.length := by
    rw [hlength, show crlf.length = 2 from rfl] at h
    exact h
  refine and_congr (crlfAt_append_of_lt hbound back) (forall₂_congr fun earlier hearlier => ?_)
  rw [crlfAt_append_of_lt (by omega) back]

/-- Only the last of the old bytes has to be searched again. -/
theorem crlfAt?_append_of_none {front : Bytes} (back : Bytes) (h : crlfAt? front = none) :
    crlfAt? (front ++ back) =
      (crlfAt? ((front ++ back).drop (front.length - 1))).map (front.length - 1 + ·) := by
  have hnone := crlfAt?_eq_none_iff.mp h
  have hdrop : ∀ position, CrlfAt ((front ++ back).drop (front.length - 1)) position ↔
      CrlfAt (front ++ back) (front.length - 1 + position) := by
    intro position
    rw [CrlfAt, CrlfAt, List.getElem?_drop, List.getElem?_drop, Nat.add_assoc]
  ext position
  rw [Option.map_eq_some_iff]
  simp only [crlfAt?_eq_some_iff, hdrop]
  constructor
  · rintro ⟨hposition, hfirst⟩
    have hle := crlfAt_append_of_not hnone hposition
    refine ⟨position - (front.length - 1), ⟨?_, fun earlier hearlier => ?_⟩, by omega⟩
    · rwa [Nat.add_sub_cancel' hle]
    · exact hfirst _ (by omega)
  · rintro ⟨offset, ⟨hoffset, hfirst⟩, rfl⟩
    refine ⟨hoffset, fun earlier hearlier hcrlf => ?_⟩
    have hle := crlfAt_append_of_not hnone hcrlf
    refine hfirst (earlier - (front.length - 1)) (by omega) ?_
    rwa [Nat.add_sub_cancel' hle]

end ProxyGate.Bytes
