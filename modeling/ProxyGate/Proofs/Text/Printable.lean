import ProxyGate.Proofs.Text.Ascii
import ProxyGate.Proofs.Text.Digits
import ProxyGate.Text.Quoted

/-!
# Texts that stay on their line

Two kinds of characters matter to who reads a message: the printable characters of ASCII, which show
as themselves, and the control characters, which can end a line or hide what stands before them.

* `MadeOf` says that a text has characters of one kind only.  It goes through the ways in which
  messages are put together: behind one another, with a separator between them, from digits.
* `quotedChar_cases` is what a quotation does to one character.  From it follow the two laws of
  quotations: none holds a control character (`madeOf_quote`), and that of an ASCII text is
  printable (`madeOf_quote_of_ascii`).
-/

namespace ProxyGate.Text

/-- A graphic character of ASCII, or the blank. -/
def IsPrintable (c : Char) : Prop :=
  0x20 ≤ c.toNat ∧ c.toNat ≤ 0x7E

/-- A control character of ASCII, line ends included. -/
def IsControl (c : Char) : Prop :=
  c.toNat < 0x20 ∨ c.toNat = 0x7F

/-- A text has only characters of one kind. -/
def MadeOf (kind : Char → Prop) (text : String) : Prop :=
  ∀ c ∈ text.toList, kind c

instance : DecidablePred IsPrintable := fun c =>
  inferInstanceAs (Decidable (0x20 ≤ c.toNat ∧ c.toNat ≤ 0x7E))

instance : DecidablePred IsControl := fun c =>
  inferInstanceAs (Decidable (c.toNat < 0x20 ∨ c.toNat = 0x7F))

-- the characters of a list are looked at, not all characters that there are
instance decidableForallMem (kind : Char → Prop) [DecidablePred kind] (chars : List Char) :
    Decidable (∀ c ∈ chars, kind c) :=
  List.decidableBAll kind chars

instance (kind : Char → Prop) [DecidablePred kind] : DecidablePred (MadeOf kind) := fun text =>
  decidableForallMem kind text.toList

theorem IsPrintable.not_isControl {c : Char} (h : IsPrintable c) : ¬IsControl c := by
  obtain ⟨hlow, hhigh⟩ := h
  rintro (hcontrol | hdelete) <;> omega

/-! ## Texts put together -/

variable {kind : Char → Prop}

theorem MadeOf.mono {other : Char → Prop} {text : String} (h : MadeOf kind text)
    (hkind : ∀ c, kind c → other c) : MadeOf other text :=
  fun c hc => hkind c (h c hc)

theorem madeOf_ofList {chars : List Char} :
    MadeOf kind (String.ofList chars) ↔ ∀ c ∈ chars, kind c := by
  rw [MadeOf, String.toList_ofList]

theorem madeOf_append {front back : String} :
    MadeOf kind (front ++ back) ↔ MadeOf kind front ∧ MadeOf kind back := by
  simp only [MadeOf, String.toList_append, List.forall_mem_append]

theorem MadeOf.append {front back : String} (hfront : MadeOf kind front)
    (hback : MadeOf kind back) : MadeOf kind (front ++ back) :=
  madeOf_append.mpr ⟨hfront, hback⟩

theorem MadeOf.intercalate {separator : String} (hseparator : MadeOf kind separator) :
    ∀ {texts : List String}, (∀ text ∈ texts, MadeOf kind text) →
      MadeOf kind (separator.intercalate texts)
  | [], _ => fun _ hc => absurd hc List.not_mem_nil
  | [text], h => by
    rw [String.intercalate_singleton]
    exact h text List.mem_cons_self
  | text :: next :: rest, h => by
    rw [List.forall_mem_cons] at h
    rw [String.intercalate_cons_cons, madeOf_append, madeOf_append]
    exact ⟨⟨h.1, hseparator⟩, MadeOf.intercalate hseparator h.2⟩

/-- What stands for a digit is printable. -/
theorem isPrintable_of_isSome_digitOf? {base : Nat} {c : Char} (h : (digitOf? base c).isSome) :
    IsPrintable c := by
  rw [IsPrintable]
  rcases toNat_of_isSome_digitOf? h with h | h | h <;> omega

theorem isPrintable_of_mem_decimal {value : Nat} {c : Char} (hc : c ∈ decimal value) :
    IsPrintable c :=
  isPrintable_of_isSome_digitOf? (isSome_digitOf?_of_mem_toDigits (by decide) (by decide) hc)

theorem madeOf_decimal (value : Nat) : MadeOf IsPrintable (String.ofList (decimal value)) :=
  madeOf_ofList.mpr fun _ => isPrintable_of_mem_decimal

/-! ## Quotations -/

/-- A character is quoted in printable ASCII, or it is none of ASCII and stands for itself. -/
theorem quotedChar_cases (c : Char) :
    (∀ d ∈ quotedChar c, IsPrintable d) ∨ (quotedChar c = [c] ∧ 0x7F < c.toNat) := by
  rw [quotedChar]
  iterate 6
    split
    · exact Or.inl (by decide)
  split
  next hplain =>
    exact Or.inl (List.forall_mem_singleton.mpr hplain)
  split
  · refine Or.inl ?_
    rw [List.forall_mem_append, List.forall_mem_append]
    refine ⟨⟨by decide, fun d hd => ?_⟩, by decide⟩
    exact isPrintable_of_isSome_digitOf?
      (isSome_digitOf?_of_mem_toDigits (by decide) (by decide) hd)
  next hplain hescaped =>
    refine Or.inr ⟨rfl, ?_⟩
    rw [not_or] at hescaped
    -- the delete character is hidden, so it does not come to this
    have hdelete : c.toNat ≠ 0x7F := by
      intro hsame
      rw [show c = Char.ofNat 0x7F from Char.toNat_inj.mp hsame] at hescaped
      exact hescaped.2 (by decide)
    omega

theorem madeOf_quote_iff {text : String} (hquote : kind '"') :
    MadeOf kind (quote text) ↔ ∀ c ∈ text.toList, ∀ d ∈ quotedChar c, kind d := by
  rw [quote, madeOf_ofList, quoted, List.forall_mem_append, List.forall_mem_cons]
  simp only [List.mem_flatMap, forall_exists_index, and_imp, List.forall_mem_singleton, hquote,
    and_true, true_and]
  exact ⟨fun h c hc d hd => h d c hc hd, fun h d c hc hd => h c hc d hd⟩

/-- A quotation holds no control character, whatever the text. -/
theorem madeOf_quote (text : String) : MadeOf (¬IsControl ·) (quote text) := by
  refine (madeOf_quote_iff (by decide)).mpr fun c _ d hd => ?_
  rcases quotedChar_cases c with hprintable | ⟨hself, hhigh⟩
  · exact (hprintable d hd).not_isControl
  · rw [hself, List.mem_singleton] at hd
    rw [hd, IsControl]
    omega

/-- The quotation of an ASCII text is printable. -/
theorem madeOf_quote_of_ascii {text : String} (h : ∀ c ∈ text.toList, c.toNat < 128) :
    MadeOf IsPrintable (quote text) := by
  refine (madeOf_quote_iff (by decide)).mpr fun c hc d hd => ?_
  rcases quotedChar_cases c with hprintable | ⟨_, hhigh⟩
  · exact hprintable d hd
  · have hlow := h c hc
    omega

/-! ## Bytes -/

/-- A printable text is written in printable bytes. -/
theorem MadeOf.bytes {text : String} (h : MadeOf IsPrintable text) :
    ∀ byte ∈ Bytes.ofText text, 0x20 ≤ byte.toNat ∧ byte.toNat ≤ 0x7E := by
  have hall : ∀ c ∈ Bytes.chars (Bytes.ofText text), IsPrintable c := by
    rwa [Bytes.chars_ofText fun c hc => Nat.lt_of_le_of_lt (h c hc).2 (by decide)]
  rw [Bytes.chars, List.forall_mem_map] at hall
  simpa only [IsPrintable, Bytes.toNat_ofUInt8] using hall

end ProxyGate.Text
