import ProxyGate.Text.Scanner

/-!
# Scanners on texts that are known

What a scanner takes off the front of a text that begins with what it looks for.  The first group
follows the ways in which scanners are put together, one step at a time; the second has the words
and runs that end where they must.  `separated_intercalate` is the result for lists: what was
written with a separator in between is taken item by item.
-/

namespace ProxyGate.Text.Scanner

variable {α β : Type} {input middle rest : List Char} {a : α} {b : β}

/-! ## One scanner and the next -/

theorem bind_of_eq {first : Scanner α} {next : α → Scanner β} (h : first input = some (a, rest)) :
    (first >>= next) input = next a rest := by
  show (first input).bind (fun taken => next taken.1 taken.2) = _
  rw [h, Option.bind_some]

theorem bind_of_none {first : Scanner α} {next : α → Scanner β} (h : first input = none) :
    (first >>= next) input = none := by
  show (first input).bind (fun taken => next taken.1 taken.2) = _
  rw [h, Option.bind_none]

theorem seqRight_of_eq {first : Scanner α} {next : Scanner β} (h : first input = some (a, rest)) :
    (first *> next) input = next rest :=
  bind_of_eq h

theorem seqLeft_of_eq {first : Scanner α} {next : Scanner β} (h : first input = some (a, middle))
    (hnext : next middle = some (b, rest)) : (first <* next) input = some (a, rest) := by
  refine (bind_of_eq h).trans ?_
  exact bind_of_eq hnext

theorem map_of_eq {scan : Scanner α} (f : α → β) (h : scan input = some (a, rest)) :
    (f <$> scan) input = some (f a, rest) := by
  show (scan input).bind (fun taken => some (f taken.1, taken.2)) = _
  rw [h, Option.bind_some]

theorem orElse_of_eq {first second : Scanner α} (h : first input = some (a, rest)) :
    (first <|> second) input = some (a, rest) := by
  show (first input <|> second input) = _
  rw [h]
  rfl

theorem orElse_of_none {first second : Scanner α} (h : first input = none) :
    (first <|> second) input = second input := by
  show (first input <|> second input) = _
  rw [h]
  rfl

/-! ## Words and runs -/

theorem char_cons (c : Char) : char c (c :: rest) = some ((), rest) := by
  rw [char, if_pos rfl]

theorem char_of_head?_ne {c : Char} (h : input.head? ≠ some c) : char c input = none := by
  cases input with
  | nil => rfl
  | cons d rest =>
    rw [List.head?_cons, ne_eq, Option.some.injEq] at h
    rw [char, if_neg h]

theorem chars_cons_of_head?_ne {c : Char} {word : List Char} (h : input.head? ≠ some c) :
    chars (c :: word) input = none :=
  bind_of_none (char_of_head?_ne h)

theorem run_of_head? {accept : Char → Bool} (h : ∀ c ∈ input.head?, accept c = false) :
    run accept input = some ([], input) := by
  cases input with
  | nil => rfl
  | cons c rest =>
    have hc := h c rfl
    simp [run, hc]

/-- A run ends where a character does not belong to it. -/
theorem run_append {accept : Char → Bool} {taken : List Char} (h : ∀ c ∈ taken, accept c = true)
    (hrest : ∀ c ∈ rest.head?, accept c = false) :
    run accept (taken ++ rest) = some (taken, rest) := by
  have hnone := run_of_head? hrest
  rw [run, Option.some.injEq, Prod.mk.injEq] at hnone
  rw [run, List.takeWhile_append_of_pos h, List.dropWhile_append_of_pos h, hnone.1, hnone.2,
    List.append_nil]

theorem someRun_append {accept : Char → Bool} {taken : List Char} (hne : taken ≠ [])
    (h : ∀ c ∈ taken, accept c = true) (hrest : ∀ c ∈ rest.head?, accept c = false) :
    someRun accept (taken ++ rest) = some (taken, rest) := by
  refine (bind_of_eq (run_append h hrest)).trans ?_
  have hguard : (guard (taken ≠ []) : Scanner Unit) = pure () := if_pos hne
  rw [hguard]
  rfl

theorem someRun_of_head? {accept : Char → Bool} (h : ∀ c ∈ input.head?, accept c = false) :
    someRun accept input = none :=
  (bind_of_eq (run_of_head? h)).trans rfl

theorem finished_nil : finished [] = some ((), []) := rfl

/-! ## Repetition -/

theorem many_of_eq {scan : Scanner α} (h : scan input = some (a, rest))
    (hlt : rest.length < input.length) :
    many scan input = (many scan rest).map fun (more, left) => (a :: more, left) := by
  rw [many, h]
  simp only [hlt, dite_true]

theorem many_of_none {scan : Scanner α} (h : scan input = none) :
    many scan input = some ([], input) := by
  rw [many, h]

/-! ## Lists -/

section Lists

variable {separator : Scanner Unit} {scan : Scanner α} {write : α → List Char} {sign : Char}
  {follow : List Char → Prop} {items : List α} {stop : List Char}

theorem follow_flatMap (hsign : ∀ rest, follow (sign :: rest)) (hstop : follow stop) :
    follow ((items.flatMap fun item => sign :: write item) ++ stop) := by
  cases items with
  | nil => exact hstop
  | cons => exact hsign _

theorem many_flatMap
    (hscan : ∀ item ∈ items, ∀ rest, follow rest → scan (write item ++ rest) = some (item, rest))
    (hseparator : ∀ item ∈ items, ∀ rest,
      separator (sign :: (write item ++ rest)) = some ((), write item ++ rest))
    (hsign : ∀ rest, follow (sign :: rest)) (hstop : follow stop) (hend : separator stop = none) :
    many (separator *> scan) ((items.flatMap fun item => sign :: write item) ++ stop) =
      some (items, stop) := by
  induction items with
  | nil => exact many_of_none (bind_of_none hend)
  | cons item items ih =>
    rw [List.forall_mem_cons] at hscan hseparator
    have hitem : (separator *> scan)
        (sign :: (write item ++ ((items.flatMap fun item => sign :: write item) ++ stop))) =
          some (item, (items.flatMap fun item => sign :: write item) ++ stop) :=
      (seqRight_of_eq (hseparator.1 _)).trans (hscan.1 _ (follow_flatMap hsign hstop))
    rw [List.flatMap_cons, List.append_assoc, List.cons_append, many_of_eq hitem, ih hscan.2
      hseparator.2, Option.map_some]
    simp only [List.length_cons, List.length_append]
    omega

theorem intercalate_map_cons (item : α) (items : List α) :
    [sign].intercalate ((item :: items).map write) =
      write item ++ items.flatMap fun item => sign :: write item := by
  induction items generalizing item with
  | nil => simp
  | cons next items ih =>
    rw [List.map_cons, List.map_cons, List.intercalate_cons_cons, ← List.map_cons, ih]
    simp

/-- A list that was written with a separator in between is taken item by item. -/
theorem separated_intercalate
    (hscan : ∀ item ∈ items, ∀ rest, follow rest → scan (write item ++ rest) = some (item, rest))
    (hseparator : ∀ item ∈ items, ∀ rest,
      separator (sign :: (write item ++ rest)) = some ((), write item ++ rest))
    (hsign : ∀ rest, follow (sign :: rest)) (hstop : follow stop) (hend : separator stop = none)
    (hnone : scan stop = none) :
    separated separator scan ([sign].intercalate (items.map write) ++ stop) =
      some (items, stop) := by
  cases items with
  | nil => exact (orElse_of_none (bind_of_none hnone)).trans rfl
  | cons item items =>
    rw [List.forall_mem_cons] at hscan hseparator
    rw [intercalate_map_cons, List.append_assoc]
    refine orElse_of_eq ((bind_of_eq (hscan.1 _ (follow_flatMap hsign hstop))).trans ?_)
    exact bind_of_eq (many_flatMap hscan.2 hseparator.2 hsign hstop hend)

end Lists

end ProxyGate.Text.Scanner
