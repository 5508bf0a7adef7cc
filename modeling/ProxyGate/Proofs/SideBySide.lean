import Mathlib.Data.List.Forall2

/-!
# Lists side by side

Two lists whose items belong together one by one, `List.Forall₂`: what stands at one place
(`forall₂_getElem?`), what a change of one place leaves (`forall₂_modify`), and the lists that a
reader of single items makes of each other (`mapM_eq_some_iff_forall₂`).
-/

namespace ProxyGate

variable {α β : Type} {r : α → β → Prop} {left : List α} {right : List β}

theorem forall₂_getElem? (h : List.Forall₂ r left right) {place : Nat} {item : α}
    (hitem : left[place]? = some item) : ∃ other, right[place]? = some other ∧ r item other := by
  induction h generalizing place with
  | nil => cases hitem
  | cons hfirst _ ih =>
    cases place with
    | zero =>
      cases hitem
      exact ⟨_, rfl, hfirst⟩
    | succ place => exact ih hitem

theorem forall₂_modify (h : List.Forall₂ r left right) {place : Nat} {change : α → α}
    {change' : β → β} (hchange : ∀ item other, left[place]? = some item →
      right[place]? = some other → r item other → r (change item) (change' other)) :
    List.Forall₂ r (left.modify place change) (right.modify place change') := by
  induction h generalizing place with
  | nil => cases place <;> exact .nil
  | cons hfirst hrest ih =>
    cases place with
    | zero => exact .cons (hchange _ _ rfl rfl hfirst) hrest
    | succ place => exact .cons hfirst (ih fun item other => hchange item other)

theorem findIdx?_of_forall₂ {p : α → Bool} {q : β → Bool}
    (h : List.Forall₂ (fun item other => p item = q other) left right) :
    left.findIdx? p = right.findIdx? q := by
  induction h with
  | nil => rfl
  | cons hfirst _ ih => rw [List.findIdx?_cons, List.findIdx?_cons, hfirst, ih]

/-- A list is read item by item. -/
theorem mapM_eq_some_iff_forall₂ {read? : α → Option β}
    (hread : ∀ item result, read? item = some result ↔ r item result) :
    left.mapM read? = some right ↔ List.Forall₂ r left right := by
  constructor
  · intro h
    induction left generalizing right with
    | nil =>
      cases h
      exact .nil
    | cons item rest ih =>
      rw [List.mapM_cons] at h
      obtain ⟨result, hresult, h⟩ := Option.bind_eq_some_iff.mp h
      obtain ⟨more, hmore, h⟩ := Option.bind_eq_some_iff.mp h
      cases h
      exact .cons ((hread item result).mp hresult) (ih hmore)
  · intro h
    induction h with
    | nil => rfl
    | cons hfirst _ ih =>
      rw [List.mapM_cons, (hread _ _).mpr hfirst, ih]
      rfl

end ProxyGate
