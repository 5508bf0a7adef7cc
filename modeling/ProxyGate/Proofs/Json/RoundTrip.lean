import ProxyGate.Json.Reader
import ProxyGate.Proofs.Text.Digits
import ProxyGate.Proofs.Text.Scanner

/-!
# JSON written and read back

The compact form of a value is read as that value, if it does not nest deeper than the reader goes
(`parse?_compact`).  So different values have different texts, whatever stands in their strings.

* Strings.  `escapedChar_cases` is what writing does to one character; `spell` is what the reader
  makes of the pieces of a string, and `spell_escapedChar` joins the two.
* Values without parts.  Each is told from the others by its first character.
* Values with parts.  `valueTo_compactChars` is the induction on how deep they nest.  What follows a
  value is nothing or a mark (`Ends`), so no number goes on behind its digits.
-/

namespace ProxyGate.Json

open Text Text.Scanner

/-- Lists and objects nest in a value to a depth at most. -/
def NestsTo : Nat → Json → Prop
  | _, .null | _, .bool _ | _, .nat _ | _, .text _ => True
  | 0, .list _ | 0, .object _ => False
  | depth + 1, .list items => ∀ item ∈ items, NestsTo depth item
  | depth + 1, .object members => ∀ member ∈ members, NestsTo depth member.2

/-! ## Strings -/

/-- Every character has its number. -/
theorem charOf?_toNat (c : Char) : charOf? c.toNat = some c := by
  have hvalid : c.toNat.isValidChar := c.valid
  have hsame := Char.ofNat_toNat c
  rw [Char.ofNat, dif_pos hvalid] at hsame
  rw [charOf?, dif_pos hvalid, hsame]

/-- A control character is escaped by its number in four digits. -/
theorem escape_codeUnit {c : Char} (h : c.toNat < 0x20) (input : List Char) :
    escape ('u' :: '0' :: '0' :: Nat.digitChar (c.toNat / 16) :: Nat.digitChar (c.toNat % 16) ::
      input) = some (c, input) := by
  have hdigits : ∀ n < 0x20,
      natOf? 16 ['0', '0', Nat.digitChar (n / 16), Nat.digitChar (n % 16)] = some n := by decide
  have hunit : codeUnit ('0' :: '0' :: Nat.digitChar (c.toNat / 16) ::
      Nat.digitChar (c.toNat % 16) :: input) = some (c.toNat, input) := by
    refine (bind_of_eq rfl).trans ?_
    show (natOf? 16 ['0', '0', Nat.digitChar (c.toNat / 16), Nat.digitChar (c.toNat % 16)]).bind
      (fun number => some (number, input)) = _
    rw [hdigits c.toNat h, Option.bind_some]
  have hnumber : escapedNumber ('0' :: '0' :: Nat.digitChar (c.toNat / 16) ::
      Nat.digitChar (c.toNat % 16) :: input) = some (c.toNat, input) := by
    refine (bind_of_eq hunit).trans ?_
    rw [if_neg (by omega)]
    rfl
  refine (bind_of_eq rfl).trans ((bind_of_eq hnumber).trans ?_)
  show (charOf? c.toNat).bind (fun read => some (read, input)) = _
  rw [charOf?_toNat, Option.bind_some]

/-- A character stands for itself in a string, or the escape that is written for it stands for
it. -/
theorem escapedChar_cases (c : Char) :
    (isPlain c = true ∧ escapedChar c = [c]) ∨
      ∃ code, escapedChar c = '\\' :: code ∧ ∀ input, escape (code ++ input) = some (c, input) := by
  rw [escapedChar]
  split
  next h => exact Or.inr ⟨['"'], rfl, fun _ => by rw [h]; rfl⟩
  split
  next h => exact Or.inr ⟨['\\'], rfl, fun _ => by rw [h]; rfl⟩
  split
  next h => exact Or.inr ⟨['n'], rfl, fun _ => by rw [h]; rfl⟩
  split
  next h => exact Or.inr ⟨['r'], rfl, fun _ => by rw [h]; rfl⟩
  split
  next h => exact Or.inr ⟨['t'], rfl, fun _ => by rw [h]; rfl⟩
  split
  next h =>
    obtain rfl : c = Char.ofNat 8 := Char.toNat_inj.mp h
    exact Or.inr ⟨['b'], rfl, fun _ => rfl⟩
  split
  next h =>
    obtain rfl : c = Char.ofNat 12 := Char.toNat_inj.mp h
    exact Or.inr ⟨['f'], rfl, fun _ => rfl⟩
  split
  next h => exact Or.inr ⟨_, rfl, escape_codeUnit h⟩
  next hquote hbackslash _ _ _ _ _ hlow =>
    refine Or.inl ⟨?_, rfl⟩
    simp [isPlain, hquote, hbackslash, Nat.not_lt.mp hlow]

/-- The characters that the pieces of a string spell. -/
def spell (input : List Char) : Option (List Char × List Char) :=
  (many textPiece input).map fun (pieces, left) => (pieces.flatten, left)

theorem spell_of_piece {input piece rest : List Char} (h : textPiece input = some (piece, rest))
    (hlt : rest.length < input.length) :
    spell input = (spell rest).map fun (spelled, left) => (piece ++ spelled, left) := by
  rw [spell, many_of_eq h hlt, spell, Option.map_map, Option.map_map]
  rfl

/-- The longest run of plain characters is one piece. -/
theorem spell_of_plain {input : List Char} (h : input.takeWhile isPlain ≠ []) :
    spell input = (spell (input.dropWhile isPlain)).map fun (spelled, left) =>
      (input.takeWhile isPlain ++ spelled, left) := by
  refine spell_of_piece (orElse_of_eq ((bind_of_eq rfl).trans ?_)) ?_
  · rw [guard, if_pos h]
    rfl
  · have hlength :=
      congrArg List.length (List.takeWhile_append_dropWhile (p := isPlain) (l := input))
    have hpos := List.length_pos_iff.mpr h
    rw [List.length_append] at hlength
    omega

/-- A written character is spelled in front of what follows it. -/
theorem spell_escapedChar (c : Char) (input : List Char) :
    spell (escapedChar c ++ input) =
      (spell input).map fun (spelled, left) => (c :: spelled, left) := by
  rcases escapedChar_cases c with ⟨hplain, heq⟩ | ⟨code, heq, hcode⟩
  · have htake : (c :: input).takeWhile isPlain = c :: input.takeWhile isPlain :=
      List.takeWhile_cons_of_pos hplain
    have hdrop : (c :: input).dropWhile isPlain = input.dropWhile isPlain :=
      List.dropWhile_cons_of_pos hplain
    rw [heq, List.singleton_append, spell_of_plain (by rw [htake]; exact List.cons_ne_nil _ _),
      htake, hdrop]
    -- the run that begins with `c` goes on with the run behind it, if there is one
    by_cases hnext : input.takeWhile isPlain = []
    · have hsame := List.takeWhile_append_dropWhile (p := isPlain) (l := input)
      rw [hnext, List.nil_append] at hsame
      rw [hnext, hsame]
      rfl
    · rw [spell_of_plain hnext, Option.map_map]
      rfl
  · have hpiece : textPiece ('\\' :: (code ++ input)) = some ([c], input) := by
      refine (orElse_of_none (someRun_of_head? ?_)).trans ?_
      · rintro _ ⟨⟩
        decide
      · exact (bind_of_eq (char_cons '\\')).trans (bind_of_eq (hcode input))
    have hlength : input.length < ('\\' :: (code ++ input)).length := by
      rw [List.length_cons, List.length_append]
      omega
    rw [heq, List.cons_append, spell_of_piece hpiece hlength]
    rfl

/-- A string is read back from what is written for it, whatever follows. -/
theorem quotedText_textChars (value : String) (rest : List Char) :
    quotedText (textChars value ++ rest) = some (value, rest) := by
  have hspell : ∀ characters : List Char,
      spell (characters.flatMap escapedChar ++ '"' :: rest) = some (characters, '"' :: rest) := by
    intro characters
    induction characters with
    | nil => 
      rw [List.flatMap_nil, List.nil_append, spell, many_of_none rfl]
      rfl
    | cons c characters ih =>
      rw [List.flatMap_cons, List.append_assoc, spell_escapedChar, ih, Option.map_some]
  obtain ⟨⟨pieces, left⟩, hmany, hpieces⟩ := Option.map_eq_some_iff.mp (hspell value.toList)
  obtain ⟨hflatten, rfl⟩ := Prod.mk.inj hpieces
  rw [textChars, List.cons_append, List.cons_append, List.append_assoc]
  refine (bind_of_eq (char_cons '"')).trans ((bind_of_eq hmany).trans ?_)
  refine (bind_of_eq (char_cons '"')).trans ?_
  rw [hflatten, String.ofList_toList]
  rfl

/-! ## What may stand around a value -/

/-- Nothing follows, or a mark that may stand behind a value. -/
def Ends (rest : List Char) : Prop :=
  ∀ c ∈ rest.head?, c = ',' ∨ c = ']' ∨ c = '}'

theorem ends_nil : Ends [] := fun _ h => by cases h

theorem ends_cons {c : Char} (h : c = ',' ∨ c = ']' ∨ c = '}') (rest : List Char) :
    Ends (c :: rest) := by
  rintro _ ⟨⟩
  exact h

theorem blanks_of_head? {input : List Char}
    (h : ∀ c ∈ input.head?, (c = ' ' || c = '\t' || c = '\n' || c = '\r') = false) :
    blanks input = some ((), input) :=
  map_of_eq _ (run_of_head? h)

theorem Ends.blanks {rest : List Char} (h : Ends rest) : blanks rest = some ((), rest) := by
  refine blanks_of_head? fun c hc => ?_
  rcases h c hc with rfl | rfl | rfl <;> rfl

theorem mark_cons {c : Char} {input : List Char} (h : Json.blanks input = some ((), input)) :
    mark c (c :: input) = some ((), input) :=
  (seqRight_of_eq (char_cons c)).trans h

/-- A written number begins with a digit. -/
theorem exists_decimal_eq_cons (value : Nat) :
    ∃ c digits, decimal value = c :: digits ∧ c.isDigit := by
  cases hdigits : decimal value with
  | nil => exact absurd hdigits Nat.toDigits_ne_nil
  | cons c digits =>
    have hmem : c ∈ Nat.toDigits 10 value := by
      rw [show Nat.toDigits 10 value = c :: digits from hdigits]
      exact List.mem_cons_self
    exact ⟨c, digits, rfl, Nat.isDigit_of_mem_toDigits (by decide) (by decide) hmem⟩

/-- No blank stands in front of a written value. -/
theorem blanks_compactChars (value : Json) (rest : List Char) :
    blanks (value.compactChars ++ rest) = some ((), value.compactChars ++ rest) := by
  cases value with
  | bool value => cases value <;> rfl
  | nat value =>
    obtain ⟨c, digits, hdigits, hdigit⟩ := exists_decimal_eq_cons value
    rw [compactChars, hdigits]
    refine blanks_of_head? ?_
    rintro _ ⟨⟩
    simp only [Bool.or_eq_false_iff, decide_eq_false_iff_not]
    refine ⟨⟨⟨?_, ?_⟩, ?_⟩, ?_⟩ <;>
    · rintro rfl
      exact absurd hdigit (by decide)
  | null | text | list | object => rfl

/-! ## Values without parts -/

theorem word_of_head?_ne {c : Char} {letters input : List Char} {spelling : String} (value : Json)
    (hspelling : spelling.toList = c :: letters) (h : input.head? ≠ some c) :
    word spelling value input = none := by
  refine bind_of_none ?_
  rw [hspelling]
  exact chars_cons_of_head?_ne h

theorem number_decimal (value : Nat) {rest : List Char} (h : Ends rest) :
    number (decimal value ++ rest) = some (value, rest) := by
  have hdigits : ∀ c ∈ decimal value, ('0' ≤ c && c ≤ '9') = true := by
    intro c hc
    exact Nat.isDigit_of_mem_toDigits (by decide) (by decide) hc
  have hrest : ∀ c ∈ rest.head?, ('0' ≤ c && c ≤ '9') = false := by
    intro c hc
    rcases h c hc with rfl | rfl | rfl <;> rfl
  have hzero : (Nat.toDigits 10 value).head? ≠ some '0' ∨ Nat.toDigits 10 value = ['0'] := by
    rcases Nat.eq_zero_or_pos value with rfl | hpos
    · exact Or.inr rfl
    · exact Or.inl (head?_toDigits_ne_zero (by decide) (by decide) hpos)
  refine (bind_of_eq (someRun_append Nat.toDigits_ne_nil hdigits hrest)).trans ?_
  rw [guard, if_pos hzero]
  show (natOf? 10 (Nat.toDigits 10 value)).bind (fun number => some (number, rest)) = _
  rw [natOf?_toDigits (by decide) (by decide), Option.bind_some]

/-- A value without parts is read back. -/
theorem atom_compactChars {value : Json} (h : value.NestsTo 0) {rest : List Char}
    (hrest : Ends rest) : atom (value.compactChars ++ rest) = some (value, rest) := by
  cases value with
  | null => rfl
  | bool value => cases value <;> rfl
  | nat value =>
    obtain ⟨c, digits, hdigits, hdigit⟩ := exists_decimal_eq_cons value
    have hhead : ∀ d : Char, ¬d.isDigit → (decimal value ++ rest).head? ≠ some d := by
      rintro d hother hsame
      rw [hdigits, List.cons_append, List.head?_cons, Option.some.injEq] at hsame
      exact hother (hsame ▸ hdigit)
    refine (orElse_of_none (word_of_head?_ne _ rfl (hhead 'n' (by decide)))).trans ?_
    refine (orElse_of_none (word_of_head?_ne _ rfl (hhead 't' (by decide)))).trans ?_
    refine (orElse_of_none (word_of_head?_ne _ rfl (hhead 'f' (by decide)))).trans ?_
    exact orElse_of_eq (map_of_eq _ (number_decimal value hrest))
  | text value =>
    have htext := map_of_eq Json.text (quotedText_textChars value rest)
    refine (orElse_of_none rfl).trans ((orElse_of_none rfl).trans ((orElse_of_none rfl).trans ?_))
    exact (orElse_of_none rfl).trans htext
  | list | object => exact absurd h id

/-! ## Values with parts -/

/-- A member as it is written. -/
def memberChars (member : String × Json) : List Char :=
  textChars member.1 ++ ':' :: member.2.compactChars

theorem compactItems_eq : ∀ items : List Json,
    compactItems items = [','].intercalate (items.map compactChars)
  | [] => rfl
  | [item] => by simp [compactItems]
  | item :: next :: rest => by
    rw [compactItems, compactItems_eq (next :: rest)]
    · simp only [List.map_cons, List.intercalate_cons_cons, List.append_assoc,
        List.singleton_append]
    · exact nofun

theorem compactMembers_eq : ∀ members : List (String × Json),
    compactMembers members = [','].intercalate (members.map memberChars)
  | [] => rfl
  | [(name, value)] => by simp [compactMembers, memberChars]
  | (name, value) :: next :: rest => by
    rw [compactMembers, compactMembers_eq (next :: rest)]
    · simp only [List.map_cons, List.intercalate_cons_cons, List.append_assoc,
        List.singleton_append, memberChars]
    · exact nofun

/-- No value begins with the end of a list. -/
theorem valueTo_of_end (depth : Nat) (rest : List Char) : valueTo depth (']' :: rest) = none := by
  cases depth <;> rfl

/-- A list is read back when its items are. -/
theorem listOf_compactItems {scan : Scanner Json} {items : List Json}
    (hscan : ∀ item ∈ items, ∀ rest, Ends rest →
      scan (item.compactChars ++ rest) = some (item, rest))
    (hnone : ∀ rest, scan (']' :: rest) = none) (rest : List Char) :
    listOf scan ('[' :: (compactItems items ++ ']' :: rest)) = some (.list items, rest) := by
  have hitem : ∀ item ∈ items, ∀ rest, Ends rest →
      (scan <* blanks) (item.compactChars ++ rest) = some (item, rest) :=
    fun item hitem rest hrest => seqLeft_of_eq (hscan item hitem rest hrest) hrest.blanks
  have hitems : separated (mark ',') (scan <* blanks) (compactItems items ++ ']' :: rest) =
      some (items, ']' :: rest) := by
    rw [compactItems_eq]
    exact separated_intercalate hitem (fun item _ rest => mark_cons (blanks_compactChars item rest))
      (ends_cons (.inl rfl)) (ends_cons (.inr (.inl rfl)) rest) rfl (bind_of_none (hnone rest))
  have hopen : mark '[' ('[' :: (compactItems items ++ ']' :: rest)) =
      some ((), compactItems items ++ ']' :: rest) := by
    refine mark_cons ?_
    cases items with
    | nil => rfl
    | cons item items =>
      rw [compactItems_eq, intercalate_map_cons, List.append_assoc]
      exact blanks_compactChars item _
  refine (bind_of_eq hopen).trans ((bind_of_eq hitems).trans ?_)
  exact bind_of_eq (char_cons ']')

/-- A member is read back when its value is. -/
theorem member_memberChars {scan : Scanner Json} {member : String × Json} {rest : List Char}
    (hscan : scan (member.2.compactChars ++ rest) = some (member.2, rest)) :
    Json.member scan (memberChars member ++ rest) = some (member, rest) := by
  rw [memberChars, List.append_assoc, List.cons_append]
  refine (bind_of_eq (quotedText_textChars member.1 _)).trans ((bind_of_eq rfl).trans ?_)
  refine (bind_of_eq (mark_cons (blanks_compactChars member.2 rest))).trans ?_
  exact bind_of_eq hscan

/-- An object is read back when the values of its members are. -/
theorem objectOf_compactMembers {scan : Scanner Json} {members : List (String × Json)}
    (hscan : ∀ member ∈ members, ∀ rest, Ends rest →
      scan (member.2.compactChars ++ rest) = some (member.2, rest)) (rest : List Char) :
    objectOf scan ('\x7b' :: (compactMembers members ++ '\x7d' :: rest)) =
      some (.object members, rest) := by
  have hmember : ∀ member ∈ members, ∀ rest, Ends rest →
      (Json.member scan <* blanks) (memberChars member ++ rest) = some (member, rest) :=
    fun member hmember rest hrest =>
      seqLeft_of_eq (member_memberChars (hscan member hmember rest hrest)) hrest.blanks
  have hmembers : separated (mark ',') (Json.member scan <* blanks)
      (compactMembers members ++ '\x7d' :: rest) = some (members, '\x7d' :: rest) := by
    rw [compactMembers_eq]
    exact separated_intercalate hmember (fun _ _ _ => rfl) (ends_cons (.inl rfl))
      (ends_cons (.inr (.inr rfl)) rest) rfl rfl
  have hopen : mark '\x7b' ('\x7b' :: (compactMembers members ++ '\x7d' :: rest)) =
      some ((), compactMembers members ++ '\x7d' :: rest) := by
    refine mark_cons ?_
    cases members with
    | nil => rfl
    | cons member members =>
      rw [compactMembers_eq, intercalate_map_cons, List.append_assoc]
      rfl
  refine (bind_of_eq hopen).trans ((bind_of_eq hmembers).trans ?_)
  exact bind_of_eq (char_cons '\x7d')

/-- A value that nests to a depth is read back to that depth. -/
theorem valueTo_compactChars {depth : Nat} {value : Json} (h : value.NestsTo depth)
    {rest : List Char} (hrest : Ends rest) :
    valueTo depth (value.compactChars ++ rest) = some (value, rest) := by
  induction depth generalizing value rest with
  | zero => exact atom_compactChars h hrest
  | succ depth ih =>
    cases value with
    | null | bool | nat | text =>
      refine orElse_of_eq (atom_compactChars ?_ hrest)
      exact trivial
    | list items =>
      rw [compactChars, List.cons_append, List.cons_append, List.append_assoc]
      refine (orElse_of_none rfl).trans (orElse_of_eq ?_)
      exact listOf_compactItems (fun item hitem rest => ih (h item hitem))
        (valueTo_of_end depth) rest
    | object members =>
      rw [compactChars, List.cons_append, List.cons_append, List.append_assoc]
      refine (orElse_of_none rfl).trans ((orElse_of_none rfl).trans ?_)
      exact objectOf_compactMembers (fun member hmember rest => ih (h member hmember)) rest

/-- **The compact form of a value is read as that value**, when it does not nest too deep. -/
theorem parse?_compact {value : Json} (h : value.NestsTo maxDepth) :
    parse? value.compact = some value := by
  have hread : (blanks *> valueTo maxDepth <* blanks <* finished) (value.compactChars ++ []) =
      some (value, []) := by
    refine seqLeft_of_eq (seqLeft_of_eq ?_ ends_nil.blanks) finished_nil
    exact (seqRight_of_eq (blanks_compactChars value [])).trans (valueTo_compactChars h ends_nil)
  rw [List.append_nil] at hread
  rw [parse?, compact, String.toList_ofList, hread]
  rfl

end ProxyGate.Json
