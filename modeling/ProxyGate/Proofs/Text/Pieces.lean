import ProxyGate.Text.Bytes

/-!
# Texts made of pieces

Addresses and header lines are pieces with one separator between them: `[sep].intercalate pieces`.
The standard library has that `List.splitOn` undoes this when no piece holds the separator.  This
file adds what a text of pieces consists of, how long it can get, into how many pieces a text is
split, that no piece holds the separator, and that splitting commutes with reading bytes as
characters.

Two facts are about one cut: at the first separator (`takeWhile_ne_append`), and in front of a known
ending (`dropEnding?_eq_some_iff`).
-/

namespace ProxyGate.Text

variable {α β : Type}

/-- A member of a joined text is the separator or stands in a piece. -/
theorem mem_intercalate {sep x : α} {pieces : List (List α)} (h : x ∈ [sep].intercalate pieces) :
    x = sep ∨ ∃ piece ∈ pieces, x ∈ piece := by
  induction pieces with
  | nil => simp at h
  | cons piece pieces ih =>
    cases pieces with
    | nil => exact Or.inr ⟨piece, by simp, by simpa using h⟩
    | cons next rest =>
      rw [List.intercalate_cons_cons, List.append_assoc, List.mem_append, List.mem_append,
        List.mem_singleton] at h
      rcases h with h | h | h
      · exact Or.inr ⟨piece, by simp, h⟩
      · exact Or.inl h
      · rcases ih h with hsep | ⟨other, hother, hx⟩
        · exact Or.inl hsep
        · exact Or.inr ⟨other, List.mem_cons_of_mem _ hother, hx⟩

/-- A member of a piece is a member of the joined text. -/
theorem mem_intercalate_of_mem {sep x : α} {piece : List α} {pieces : List (List α)}
    (hpiece : piece ∈ pieces) (hx : x ∈ piece) : x ∈ [sep].intercalate pieces := by
  induction pieces with
  | nil => exact absurd hpiece List.not_mem_nil
  | cons first pieces ih =>
    cases pieces with
    | nil =>
      rw [List.mem_singleton.mp hpiece] at hx
      rwa [List.intercalate_singleton]
    | cons next rest =>
      rw [List.intercalate_cons_cons, List.mem_append]
      rcases List.mem_cons.mp hpiece with rfl | hpiece
      · exact Or.inl (List.mem_append_left _ hx)
      · exact Or.inr (ih hpiece)

/-- Bounded pieces make a bounded text: every piece but the last brings one separator. -/
theorem length_intercalate_lt (sep : α) {pieces : List (List α)} {bound : Nat}
    (hne : pieces ≠ []) (h : ∀ piece ∈ pieces, piece.length ≤ bound) :
    ([sep].intercalate pieces).length < (bound + 1) * pieces.length := by
  induction pieces with
  | nil => exact absurd rfl hne
  | cons piece pieces ih =>
    have hpiece : piece.length ≤ bound := h piece (by simp)
    cases pieces with
    | nil =>
      simp only [List.intercalate_singleton, List.length_singleton]
      omega
    | cons next rest =>
      have hrest := ih (by simp) (fun other hother => h other (List.mem_cons_of_mem _ hother))
      have hcount : (bound + 1) * (piece :: next :: rest).length =
          (bound + 1) * (next :: rest).length + (bound + 1) := Nat.mul_succ _ _
      rw [hcount, List.intercalate_cons_cons, List.length_append, List.length_append,
        List.length_singleton]
      omega

/-- There is one piece more than there are separators. -/
theorem length_splitOn [BEq α] [LawfulBEq α] (sep : α) (xs : List α) :
    (xs.splitOn sep).length = 1 + xs.count sep := by
  induction xs with
  | nil => rfl
  | cons x xs ih =>
    rw [List.splitOn_cons_eq_if_modifyHead, List.count_cons]
    by_cases hx : x = sep
    · simp [hx, ih, Nat.add_assoc]
    · simp [hx, ih]

/-- No piece holds the separator. -/
theorem not_mem_of_mem_splitOn [BEq α] [LawfulBEq α] {sep : α} {xs piece : List α}
    (h : piece ∈ xs.splitOn sep) : sep ∉ piece := by
  induction xs generalizing piece with
  | nil => simp_all
  | cons x xs ih =>
    rw [List.splitOn_cons_eq_if_modifyHead] at h
    obtain ⟨first, rest, hsplit⟩ := List.exists_cons_of_ne_nil (List.splitOn_ne_nil sep xs)
    rw [hsplit] at h ih
    by_cases hx : x = sep
    · rw [if_pos (by simpa using hx), List.mem_cons] at h
      rcases h with rfl | h
      · exact List.not_mem_nil
      · exact ih h
    · rw [if_neg (by simpa using hx), List.modifyHead_cons, List.mem_cons] at h
      rcases h with rfl | h
      · rw [List.mem_cons, not_or]
        exact ⟨fun heq => hx heq.symm, ih List.mem_cons_self⟩
      · exact ih (List.mem_cons_of_mem _ h)

/-- Splitting and translating one by one commute when no other element is taken for the
separator. -/
theorem splitOn_map [BEq α] [LawfulBEq α] [BEq β] [LawfulBEq β] {f : α → β} {sep : α}
    (xs : List α) (h : ∀ x, f x = f sep → x = sep) :
    (xs.map f).splitOn (f sep) = (xs.splitOn sep).map (List.map f) := by
  induction xs with
  | nil => simp
  | cons x xs ih =>
    rw [List.map_cons, List.splitOn_cons_eq_if_modifyHead, List.splitOn_cons_eq_if_modifyHead, ih]
    by_cases hx : x = sep
    · simp [hx]
    · have hf : f x ≠ f sep := fun heq => hx (h x heq)
      cases hsplit : xs.splitOn sep with
      | nil => simp [hx, hf]
      | cons piece pieces => simp [hx, hf]

/-! ## One cut -/

/-- A text is cut at its first separator. -/
theorem takeWhile_ne_append [DecidableEq α] {sep : α} {front : List α} (h : sep ∉ front)
    (rest : List α) (hrest : ∀ x, rest.head? = some x → x = sep) :
    (front ++ rest).takeWhile (· ≠ sep) = front ∧ (front ++ rest).dropWhile (· ≠ sep) = rest := by
  have hfront : ∀ x ∈ front, decide (x ≠ sep) = true := by
    intro x hx
    rw [decide_eq_true_eq]
    rintro rfl
    exact h hx
  rw [List.takeWhile_append_of_pos hfront, List.dropWhile_append_of_pos hfront]
  cases rest with
  | nil => simp
  | cons x rest =>
    have hx : x = sep := hrest x rfl
    simp [hx]

/-- A text is taken apart into what stands before its ending and the ending. -/
theorem dropEnding?_eq_some_iff [DecidableEq α] {ending whole body : List α} :
    dropEnding? ending whole = some body ↔ whole = body ++ ending := by
  simp only [dropEnding?]
  constructor
  · intro h
    rw [Option.ite_none_right_eq_some, Option.some.injEq] at h
    calc whole = whole.take (whole.length - ending.length) ++
          whole.drop (whole.length - ending.length) := (List.take_append_drop _ _).symm
      _ = body ++ ending := by rw [h.1, h.2]
  · rintro rfl
    simp

end ProxyGate.Text
