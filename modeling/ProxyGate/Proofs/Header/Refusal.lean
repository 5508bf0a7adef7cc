import ProxyGate.Proofs.Header.Opening

/-!
# The first rule that a line breaks

A `Rule` says on its own when a line breaks it and with which fault, without the reader and without
the other rules, so a line can break many of them.  `rules` puts them in order: the line as a whole,
the shape of its words from left to right, and what the words say from left to right.

`parse_reports_first` is the result: the reader refuses a line with the fault of the first rule that
it breaks, and reads every line that breaks none.

There are four groups.

* The words of a line.  `Holds` finds a word by its field, and `Holds.unique` says that there is at
  most one.
* The rules.  Each of them blames a line in at most one way (`determines_of_mem_rules`), and so
  does the first of them that is broken (`First.unique`).
* Checks in a row.  `Checks` is one check that stands for one rule, `Reports` a row of checks that
  stands for a list of rules.
* The reader.  Each of its checks has a lemma of its own, and `reports_parse` is all of them in a
  row.
-/

namespace ProxyGate.Header

open ProxyGate.Text

/-! ## The words of a line -/

/-- The place of a field among the words of a line. -/
def Field.position : Field → Nat
  | .signature => 0
  | .protocol => 1
  | .sourceAddress => 2
  | .destinationAddress => 3
  | .sourcePort => 4
  | .destinationPort => 5

/-- A line consists of pieces with blanks between them, and of its end. -/
structure CutInto (line : Bytes) (pieces : List Bytes) : Prop where
  line_eq : line = [32].intercalate pieces ++ Bytes.crlf
  blank_not_mem : ∀ piece ∈ pieces, 32 ∉ piece
  ne_nil : pieces ≠ []

/-- A line has a word in the place of a field. -/
def Holds (line : Bytes) (field : Field) (word : Bytes) : Prop :=
  ∃ pieces, CutInto line pieces ∧ pieces[field.position]? = some word

theorem cutInto_splitOn (body : Bytes) : CutInto (body ++ Bytes.crlf) (body.splitOn 32) where
  line_eq := by rw [List.intercalate_splitOn]
  blank_not_mem := fun _ hpiece => not_mem_of_mem_splitOn hpiece
  ne_nil := List.splitOn_ne_nil 32 body

theorem CutInto.unique {line : Bytes} {pieces pieces' : List Bytes} (h : CutInto line pieces)
    (h' : CutInto line pieces') : pieces = pieces' := by
  have hbody : [32].intercalate pieces = [32].intercalate pieces' :=
    List.append_cancel_right (h.line_eq.symm.trans h'.line_eq)
  rw [← List.splitOn_intercalate 32 h.blank_not_mem h.ne_nil, hbody,
    List.splitOn_intercalate 32 h'.blank_not_mem h'.ne_nil]

theorem Holds.unique {line word word' : Bytes} {field : Field} (h : Holds line field word)
    (h' : Holds line field word') : word = word' := by
  obtain ⟨pieces, hcut, hword⟩ := h
  obtain ⟨pieces', hcut', hword'⟩ := h'
  rw [hcut.unique hcut', hword', Option.some.injEq] at hword
  exact hword.symm

/-- Two texts in the place of the same field are the same. -/
theorem Holds.text_unique {line : Bytes} {text text' : String} {field : Field}
    (h : Holds line field (Bytes.ofText text)) (h' : Holds line field (Bytes.ofText text')) :
    text = text' :=
  Bytes.ofText_injective (h.unique h')

/-- Two families that a line declares are the same. -/
theorem Holds.family_unique {line : Bytes} {family family' : Family}
    (h : Holds line .protocol (Bytes.ofText family.word))
    (h' : Holds line .protocol (Bytes.ofText family'.word)) : family = family' := by
  have hword := ofWord?_eq_some_iff.mpr (h.text_unique h')
  rw [ofWord?_eq_some_iff.mpr rfl, Option.some.injEq] at hword
  exact hword

/-! ## The rules -/

/-- When a line breaks a rule, and with which fault. -/
abbrev Rule := Bytes → Fault → Prop

/-- A word spells a port: a run of decimal digits, with a value of at most 65535. -/
def SpellsPort (word : Bytes) : Prop :=
  word ≠ [] ∧ (∀ byte ∈ word, 48 ≤ byte.toNat ∧ byte.toNat ≤ 57) ∧ decimalValue word ≤ 65535

namespace Rule

/-- There is nothing. -/
def empty : Rule := fun line fault =>
  fault = .empty ∧ line = []

/-- There are more bytes than a line may have. -/
def tooLong : Rule := fun line fault =>
  fault = .tooLong ∧ maxLength < line.length

/-- The line ending is not at the end. -/
def unterminated : Rule := fun line fault =>
  fault = .unterminated ∧ ¬Bytes.crlf <:+ line

/-- A byte before the end is not ASCII. -/
def notAscii : Rule := fun line fault =>
  fault = .notAscii ∧ ∃ body, line = body ++ Bytes.crlf ∧ ∃ byte ∈ body, 0x80 ≤ byte.toNat

/-- There are not five blanks before the end.  The fault counts the words between the blanks. -/
def fieldCount : Rule := fun line fault =>
  ∃ body, line = body ++ Bytes.crlf ∧ fault = .fieldCount (1 + body.count 32) ∧
    1 + body.count 32 ≠ 6

/-- A word is empty or holds a blank or a control character. -/
def badToken (field : Field) : Rule := fun line fault =>
  fault = .badToken field ∧ ∃ word, Holds line field word ∧
    (word = [] ∨ ∃ byte ∈ word, byte.toNat ≤ 0x20 ∨ byte.toNat = 0x7F)

/-- The first word is not the keyword. -/
def badSignature : Rule := fun line fault =>
  fault = .badSignature ∧ ∃ word, Holds line .signature word ∧ word ≠ Bytes.ofText keyword

/-- The second word declares no family. -/
def unknownFamily : Rule := fun line fault =>
  ∃ text, fault = .unknownFamily text ∧ Holds line .protocol (Bytes.ofText text) ∧
    ∀ family : Family, text ≠ family.word

/-- An address is none of the family that the second word declares. -/
def wrongFamily (field : Field) : Rule := fun line fault =>
  ∃ family text, fault = .wrongFamily family field text ∧
    Holds line .protocol (Bytes.ofText family.word) ∧ Holds line field (Bytes.ofText text) ∧
    ∀ host, ¬NamesHost family (Bytes.ofText text) host

/-- A port is not spelled as one. -/
def badPort (field : Field) : Rule := fun line fault =>
  ∃ text, fault = .badPort field text ∧ Holds line field (Bytes.ofText text) ∧
    ¬SpellsPort (Bytes.ofText text)

end Rule

/-- The rules in their order. -/
def rules : List Rule :=
  [.empty, .tooLong, .unterminated, .notAscii, .fieldCount, .badToken .signature,
    .badToken .protocol, .badToken .sourceAddress, .badToken .destinationAddress,
    .badToken .sourcePort, .badToken .destinationPort, .badSignature, .unknownFamily,
    .wrongFamily .sourceAddress, .wrongFamily .destinationAddress, .badPort .sourcePort,
    .badPort .destinationPort]

/-- A fault is that of the first rule that a line breaks. -/
def First (rules : List Rule) (line : Bytes) (fault : Fault) : Prop :=
  ∃ before rule behind, rules = before ++ rule :: behind ∧ rule line fault ∧
    ∀ earlier ∈ before, ∀ other, ¬earlier line other

theorem first_cons_iff {rule : Rule} {rules : List Rule} {line : Bytes} {fault : Fault} :
    First (rule :: rules) line fault ↔
      rule line fault ∨ (∀ other, ¬rule line other) ∧ First rules line fault := by
  constructor
  · rintro ⟨before, broken, behind, hrules, hbroken, hbefore⟩
    cases before with
    | nil =>
      obtain ⟨rfl, rfl⟩ := List.cons.inj hrules
      exact Or.inl hbroken
    | cons earlier before =>
      obtain ⟨rfl, rfl⟩ := List.cons.inj hrules
      rw [List.forall_mem_cons] at hbefore
      exact Or.inr ⟨hbefore.1, before, broken, behind, rfl, hbroken, hbefore.2⟩
  · rintro (hbroken | ⟨hkept, before, broken, behind, rfl, hbroken, hbefore⟩)
    · exact ⟨[], rule, rules, rfl, hbroken, fun _ h => absurd h List.not_mem_nil⟩
    · exact ⟨rule :: before, broken, behind, rfl, hbroken,
        List.forall_mem_cons.mpr ⟨hkept, hbefore⟩⟩

/-- A rule blames a line in at most one way. -/
def Rule.Determines (rule : Rule) : Prop :=
  ∀ ⦃line : Bytes⦄ ⦃fault fault' : Fault⦄, rule line fault → rule line fault' → fault = fault'

/-- A rule with a fault of its own determines it. -/
theorem Rule.determines_of_fault {rule : Rule} (fault : Fault)
    (h : ∀ line other, rule line other → other = fault) : rule.Determines :=
  fun line _ _ hbroken hbroken' => (h line _ hbroken).trans (h line _ hbroken').symm

theorem Rule.determines_fieldCount : fieldCount.Determines := by
  rintro line fault fault' ⟨body, hcut, rfl, _⟩ ⟨body', hcut', rfl, _⟩
  rw [List.append_cancel_right (hcut.symm.trans hcut')]

theorem Rule.determines_unknownFamily : unknownFamily.Determines := by
  rintro line fault fault' ⟨text, rfl, hholds, _⟩ ⟨text', rfl, hholds', _⟩
  rw [hholds.text_unique hholds']

theorem Rule.determines_wrongFamily (field : Field) : (wrongFamily field).Determines := by
  rintro line fault fault' ⟨family, text, rfl, hfamily, hholds, _⟩
    ⟨family', text', rfl, hfamily', hholds', _⟩
  rw [hfamily.family_unique hfamily', hholds.text_unique hholds']

theorem Rule.determines_badPort (field : Field) : (badPort field).Determines := by
  rintro line fault fault' ⟨text, rfl, hholds, _⟩ ⟨text', rfl, hholds', _⟩
  rw [hholds.text_unique hholds']

theorem determines_of_mem_rules : ∀ rule ∈ rules, rule.Determines := by
  have htoken : ∀ field, (Rule.badToken field).Determines := fun field =>
    Rule.determines_of_fault (.badToken field) fun _ _ h => h.1
  simp only [rules, List.forall_mem_cons]
  exact ⟨Rule.determines_of_fault .empty fun _ _ h => h.1,
    Rule.determines_of_fault .tooLong fun _ _ h => h.1,
    Rule.determines_of_fault .unterminated fun _ _ h => h.1,
    Rule.determines_of_fault .notAscii fun _ _ h => h.1,
    Rule.determines_fieldCount, htoken _, htoken _, htoken _, htoken _, htoken _, htoken _,
    Rule.determines_of_fault .badSignature fun _ _ h => h.1,
    Rule.determines_unknownFamily, Rule.determines_wrongFamily _, Rule.determines_wrongFamily _,
    Rule.determines_badPort _, Rule.determines_badPort _, fun _ h => absurd h List.not_mem_nil⟩

theorem First.unique {rules : List Rule} (hrules : ∀ rule ∈ rules, rule.Determines) {line : Bytes}
    {fault fault' : Fault} (h : First rules line fault) (h' : First rules line fault') :
    fault = fault' := by
  induction rules with
  | nil =>
    obtain ⟨before, rule, behind, hnil, _⟩ := h
    exact absurd hnil.symm (by simp)
  | cons rule rules ih =>
    rw [List.forall_mem_cons] at hrules
    rw [first_cons_iff] at h h'
    rcases h with h | ⟨hkept, h⟩
    · rcases h' with h' | ⟨hkept', _⟩
      · exact hrules.1 h h'
      · exact absurd h (hkept' fault)
    · rcases h' with h' | ⟨_, h'⟩
      · exact absurd h' (hkept fault')
      · exact ih hrules.2 h h'

/-! ## Checks in a row -/

variable {α β : Type}

/-- A check stands for a rule: it passes when the line keeps it, and tells how it is broken. -/
def Checks (line : Bytes) (rule : Rule) : Except Fault α → Prop
  | .ok _ => ∀ fault, ¬rule line fault
  | .error fault => rule line fault

/-- Checks in a row stand for rules: they pass when the line keeps them all, and tell how the first
is broken. -/
def Reports (line : Bytes) (rules : List Rule) : Except Fault α → Prop
  | .ok _ => ∀ rule ∈ rules, ∀ fault, ¬rule line fault
  | .error fault => First rules line fault

theorem Reports.broken {line : Bytes} {rule : Rule} {rules : List Rule} {fault : Fault}
    (h : rule line fault) : Reports line (rule :: rules) (.error fault : Except Fault α) :=
  first_cons_iff.mpr (Or.inl h)

theorem Reports.kept {line : Bytes} {rule : Rule} {rules : List Rule} {outcome : Except Fault α}
    (h : ∀ fault, ¬rule line fault) (hrest : Reports line rules outcome) :
    Reports line (rule :: rules) outcome := by
  cases outcome with
  | ok a => exact List.forall_mem_cons.mpr ⟨h, hrest⟩
  | error fault => exact first_cons_iff.mpr (Or.inr ⟨h, hrest⟩)

/-- A check in front of others. -/
theorem Checks.bind {line : Bytes} {rule : Rule} {rules : List Rule} {first : Except Fault α}
    {next : α → Except Fault β} (hfirst : Checks line rule first)
    (hnext : ∀ a, first = .ok a → Reports line rules (next a)) :
    Reports line (rule :: rules) (first >>= next) := by
  cases first with
  | ok a => exact .kept hfirst (hnext a rfl)
  | error fault => exact .broken hfirst

/-! ## The checks of the reader -/

/-- A byte of an ASCII word that is neither blank nor control is graphic. -/
theorem isWord_iff_of_isAscii {word : Bytes} (hascii : Bytes.isAscii word = true) :
    IsWord word ↔ ¬(word = [] ∨ ∃ byte ∈ word, byte.toNat ≤ 0x20 ∨ byte.toNat = 0x7F) := by
  rw [Bytes.isAscii, List.all_eq_true] at hascii
  rw [IsWord, not_or]
  push Not
  refine and_congr_right fun _ => forall₂_congr fun byte hbyte => ?_
  have hlow := hascii byte hbyte
  rw [decide_eq_true_eq, UInt8.lt_iff_toNat_lt, show (128 : UInt8).toNat = 128 from rfl] at hlow
  omega

theorem checks_checkToken {line word : Bytes} {field : Field} (hholds : Holds line field word)
    (hascii : Bytes.isAscii word = true) :
    Checks line (.badToken field) (checkToken field (Bytes.chars word)) := by
  cases hcheck : checkToken field (Bytes.chars word) with
  | ok _ =>
    have hword : IsWord word := checkToken_chars_eq_ok_iff.mp hcheck
    rintro fault ⟨_, word', hholds', hspoilt⟩
    rw [← hholds.unique hholds'] at hspoilt
    exact (isWord_iff_of_isAscii hascii).mp hword hspoilt
  | error fault =>
    have hnone : ¬IsWord word := by
      intro hword
      rw [checkToken_chars_eq_ok_iff.mpr hword] at hcheck
      cases hcheck
    rw [isWord_iff_of_isAscii hascii, not_not] at hnone
    exact ⟨checkToken_eq_error hcheck, word, hholds, hnone⟩

theorem checks_parseFamily {line : Bytes} {text : String}
    (hholds : Holds line .protocol (Bytes.ofText text)) :
    Checks line .unknownFamily (parseFamily text) := by
  cases hcheck : parseFamily text with
  | ok family =>
    have hword := parseFamily_eq_ok_iff.mp hcheck
    rintro fault ⟨text', _, hholds', hother⟩
    rw [← hholds.text_unique hholds'] at hother
    exact hother family hword
  | error fault =>
    refine ⟨text, parseFamily_eq_error hcheck, hholds, fun family hword => ?_⟩
    rw [parseFamily_eq_ok_iff.mpr hword] at hcheck
    cases hcheck

theorem checks_parseHost {line word : Bytes} {family : Family} {field : Field}
    (hfamily : Holds line .protocol (Bytes.ofText family.word)) (hholds : Holds line field word)
    (hascii : Bytes.isAscii word = true) :
    Checks line (.wrongFamily field) (parseHost family field (Bytes.chars word)) := by
  cases hcheck : parseHost family field (Bytes.chars word) with
  | ok host =>
    have hnames := (parseHost_chars_eq_ok_iff hascii).mp hcheck
    rintro fault ⟨family', text, _, hfamily', hholds', hnone⟩
    rw [← hfamily.family_unique hfamily', ← hholds.unique hholds'] at hnone
    exact hnone host hnames
  | error fault =>
    refine ⟨family, _, parseHost_eq_error hcheck, hfamily, ?_, fun host hnames => ?_⟩
    · rwa [Bytes.ofText_ofList_chars hascii]
    · rw [Bytes.ofText_ofList_chars hascii] at hnames
      rw [(parseHost_chars_eq_ok_iff hascii).mpr hnames] at hcheck
      cases hcheck

/-- A word spells a port when it names one. -/
theorem spellsPort_iff {word : Bytes} :
    SpellsPort word ↔ ∃ port, portOf? (Bytes.chars word) = some port := by
  simp only [portOf?_chars_eq_some_iff, NamesPort, SpellsPort, exists_and_left]
  refine and_congr_right fun _ => and_congr_right fun _ => ⟨fun hle => ?_, ?_⟩
  · exact ⟨UInt16.ofNat (decimalValue word), by rw [UInt16.toNat_ofNat']; omega⟩
  · rintro ⟨port, hvalue⟩
    have := port.toNat_lt
    omega

theorem checks_parsePort {line word : Bytes} {field : Field} (hholds : Holds line field word)
    (hascii : Bytes.isAscii word = true) :
    Checks line (.badPort field) (parsePort field (Bytes.chars word)) := by
  cases hcheck : parsePort field (Bytes.chars word) with
  | ok port =>
    have hspells := spellsPort_iff.mpr ⟨port, parsePort_eq_ok_iff.mp hcheck⟩
    rintro fault ⟨text, _, hholds', hnone⟩
    rw [← hholds.unique hholds'] at hnone
    exact hnone hspells
  | error fault =>
    refine ⟨_, parsePort_eq_error hcheck, ?_, fun hspells => ?_⟩
    · rwa [Bytes.ofText_ofList_chars hascii]
    · rw [Bytes.ofText_ofList_chars hascii, spellsPort_iff] at hspells
      obtain ⟨port, hport⟩ := hspells
      rw [parsePort_eq_ok_iff.mpr hport] at hcheck
      cases hcheck

/-! ## The reader -/

theorem parseWords_of_length_ne {words : List (List Char)} (h : words.length ≠ 6) :
    parseWords words = .error (.fieldCount words.length) := by
  unfold parseWords
  split
  · exact absurd rfl h
  · rfl

theorem exists_of_length_eq_six {pieces : List α} (h : pieces.length = 6) :
    ∃ a b c d e f, pieces = [a, b, c, d, e, f] := by
  match pieces, h with
  | [a, b, c, d, e, f], _ => exact ⟨a, b, c, d, e, f, rfl⟩

/-- The checks of the words of a line that has six of them. -/
theorem reports_parseWords {line first second source destination sourcePort destinationPort : Bytes}
    (hcut : CutInto line [first, second, source, destination, sourcePort, destinationPort])
    (hascii : ∀ word ∈ [first, second, source, destination, sourcePort, destinationPort],
      Bytes.isAscii word = true) :
    Reports line (rules.drop 5) (parseWords
      ([first, second, source, destination, sourcePort, destinationPort].map Bytes.chars)) := by
  simp only [List.forall_mem_cons] at hascii
  obtain ⟨hascii1, hascii2, hascii3, hascii4, hascii5, hascii6, _⟩ := hascii
  have h1 : Holds line .signature first := ⟨_, hcut, rfl⟩
  have h2 : Holds line .protocol second := ⟨_, hcut, rfl⟩
  have h3 : Holds line .sourceAddress source := ⟨_, hcut, rfl⟩
  have h4 : Holds line .destinationAddress destination := ⟨_, hcut, rfl⟩
  have h5 : Holds line .sourcePort sourcePort := ⟨_, hcut, rfl⟩
  have h6 : Holds line .destinationPort destinationPort := ⟨_, hcut, rfl⟩
  simp only [List.map_cons, List.map_nil, parseWords]
  -- the shape of the words
  refine (checks_checkToken h1 hascii1).bind fun _ _ => ?_
  refine (checks_checkToken h2 hascii2).bind fun _ _ => ?_
  refine (checks_checkToken h3 hascii3).bind fun _ _ => ?_
  refine (checks_checkToken h4 hascii4).bind fun _ _ => ?_
  refine (checks_checkToken h5 hascii5).bind fun _ _ => ?_
  refine (checks_checkToken h6 hascii6).bind fun _ _ => ?_
  -- what they say
  have hkeyword : Bytes.chars first = keyword.toList ↔ first = Bytes.ofText keyword := by
    rw [show keyword.toList = Bytes.chars (Bytes.ofText keyword) by decide]
    exact ⟨fun h => Bytes.chars_injective h, fun h => by rw [h]⟩
  by_cases hfirst : Bytes.chars first = keyword.toList
  · rw [if_neg (not_not_intro hfirst)]
    refine .kept ?_ ?_
    · rintro fault ⟨_, word, hholds, hother⟩
      exact hother ((hholds.unique h1).trans (hkeyword.mp hfirst))
    rw [← Bytes.ofText_ofList_chars hascii2] at h2
    refine (checks_parseFamily h2).bind fun family hfamily => ?_
    rw [parseFamily_eq_ok_iff.mp hfamily] at h2
    refine (checks_parseHost h2 h3 hascii3).bind fun _ _ => ?_
    refine (checks_parseHost h2 h4 hascii4).bind fun _ _ => ?_
    refine (checks_parsePort h5 hascii5).bind fun _ _ => ?_
    refine (checks_parsePort h6 hascii6).bind fun _ _ => ?_
    exact fun rule h => absurd h List.not_mem_nil
  · rw [if_pos hfirst]
    exact .broken ⟨rfl, first, h1, fun h => hfirst (hkeyword.mpr h)⟩

/-- The checks of what stands before the end of a line. -/
theorem reports_body {body : Bytes} (hascii : Bytes.isAscii body = true) :
    Reports (body ++ Bytes.crlf) (rules.drop 4) (parseWords ((Bytes.chars body).splitOn ' ')) := by
  have hlength := length_splitOn 32 body
  rw [splitOn_chars]
  by_cases hsix : (body.splitOn 32).length = 6
  · refine .kept ?_ ?_
    · rintro fault ⟨body', hcut, _, hother⟩
      rw [← List.append_cancel_right hcut] at hother
      omega
    obtain ⟨first, second, source, destination, sourcePort, destinationPort, hpieces⟩ :=
      exists_of_length_eq_six hsix
    have hcut := cutInto_splitOn body
    rw [hpieces] at hcut ⊢
    refine reports_parseWords hcut fun word hword => List.all_eq_true.mpr fun byte hbyte => ?_
    refine List.all_eq_true.mp hascii byte ?_
    have hbody : [32].intercalate (body.splitOn 32) = body := List.intercalate_splitOn 32
    rw [← hbody, hpieces]
    exact mem_intercalate_of_mem hword hbyte
  · rw [parseWords_of_length_ne (by rwa [List.length_map]), List.length_map]
    exact .broken ⟨body, rfl, by rw [hlength], by omega⟩

/-- The checks of a whole line stand for all rules. -/
theorem reports_parse (line : Bytes) : Reports line rules (parse line) := by
  rw [parse]
  by_cases hempty : line = []
  · rw [if_pos hempty]
    exact .broken ⟨rfl, hempty⟩
  rw [if_neg hempty]
  refine .kept (fun _ h => hempty h.2) ?_
  by_cases hlong : maxLength < line.length
  · rw [if_pos hlong]
    exact .broken ⟨rfl, hlong⟩
  rw [if_neg hlong]
  refine .kept (fun _ h => hlong h.2) ?_
  cases hdrop : dropEnding? Bytes.crlf line with
  | none =>
    refine .broken ⟨rfl, ?_⟩
    rintro ⟨body, hline⟩
    rw [dropEnding?_eq_some_iff.mpr hline.symm] at hdrop
    cases hdrop
  | some body =>
    have hline := dropEnding?_eq_some_iff.mp hdrop
    subst hline
    refine .kept (fun _ h => h.2 (List.suffix_append body Bytes.crlf)) ?_
    have hhigh : Bytes.isAscii body = true ↔ ¬∃ byte ∈ body, 0x80 ≤ byte.toNat := by
      simp [Bytes.isAscii, UInt8.lt_iff_toNat_lt]
    dsimp only
    by_cases hascii : Bytes.isAscii body = true
    · rw [if_pos hascii]
      refine .kept ?_ (reports_body hascii)
      rintro fault ⟨_, body', hcut, hbyte⟩
      rw [← List.append_cancel_right hcut] at hbyte
      exact hhigh.mp hascii hbyte
    · rw [if_neg hascii]
      rw [hhigh, not_not] at hascii
      exact .broken ⟨rfl, body, rfl, hascii⟩

/-- **A line is refused with the fault of the first rule that it breaks**, and read when it breaks
none. -/
theorem parse_reports_first (line : Bytes) :
    (∀ fault, parse line = .error fault ↔ First rules line fault) ∧
      ((∃ header, parse line = .ok header) ↔ ∀ rule ∈ rules, ∀ fault, ¬rule line fault) := by
  have hreports := reports_parse line
  cases hparse : parse line with
  | ok header =>
    rw [hparse] at hreports
    refine ⟨fun fault => iff_of_false (by simp) ?_, iff_of_true ⟨header, rfl⟩ hreports⟩
    rintro ⟨before, rule, behind, hrules, hbroken, _⟩
    exact hreports rule (by simp [hrules]) fault hbroken
  | error fault =>
    rw [hparse] at hreports
    refine ⟨fun other => ?_, iff_of_false (by simp) ?_⟩
    · rw [Except.error.injEq]
      constructor
      · rintro rfl
        exact hreports
      · exact hreports.unique determines_of_mem_rules
    · obtain ⟨before, rule, behind, hrules, hbroken, _⟩ := hreports
      exact fun hkept => hkept rule (by simp [hrules]) fault hbroken

example : parse (Bytes.ofText "PROXY TCP9 ::1 1.2 x 70000\r\n") =
    .error (.unknownFamily "TCP9") := by decide

end ProxyGate.Header
