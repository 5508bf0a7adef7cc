import ProxyGate.Header.Parser
import ProxyGate.Proofs.Text.Ascii
import ProxyGate.Proofs.Text.Digits
import ProxyGate.Proofs.Text.Pieces

/-!
# The grammar of header lines

`Header.Says line header` is what it means that a line says a header, written down without the
reader: the six words in their order with one blank between them, each word of graphic bytes, the
addresses of the family that the second word names, the ports in decimal, the line ending, and at
most 107 bytes in all.  `parse_eq_ok_iff_says` is the result: the reader accepts exactly these
lines and gives exactly that header.

The reader works in two layers and so does the proof.  `parse_eq_ok_iff_words` opens the line as a
whole down to its words as bytes, `parseWords_eq_ok_iff` opens the words, and the lemmas on
`parseHost` and `Text.portOf?` relate single words to `NamesHost` and `NamesPort`.
-/

namespace ProxyGate.Header

open ProxyGate.Text

/-! ## The grammar -/

/-- A blank on the wire. -/
def blank : Bytes := Bytes.ofText " "

/-- A word of a header line: graphic ASCII bytes, at least one. -/
def IsWord (word : Bytes) : Prop :=
  word ≠ [] ∧ ∀ byte ∈ word, 0x21 ≤ byte.toNat ∧ byte.toNat ≤ 0x7E

/-- A word names a host in a family: the text of an address of that version, or any text. -/
inductive NamesHost : Family → Bytes → Host → Prop where
  | v4 {word : Bytes} {ip : Address.V4} (h : Address.V4.ofChars? (Bytes.chars word) = some ip) :
      NamesHost .tcp4 word (.ip (.v4 ip))
  | v6 {word : Bytes} {ip : Address.V6} (h : Address.V6.ofChars? (Bytes.chars word) = some ip) :
      NamesHost .tcp6 word (.ip (.v6 ip))
  | token {word : Bytes} {text : String} (h : word = Bytes.ofText text) :
      NamesHost .unknown word (.token text)

/-- The number that decimal digits stand for. -/
def decimalValue (word : Bytes) : Nat :=
  word.foldl (fun value digit => 10 * value + (digit.toNat - 48)) 0

/-- A word names a port: decimal digits only, with the port as their value. -/
def NamesPort (word : Bytes) (port : UInt16) : Prop :=
  (∀ byte ∈ word, 48 ≤ byte.toNat ∧ byte.toNat ≤ 57) ∧ decimalValue word = port.toNat

/-- What it means that a line says a header. -/
def Says (line : Bytes) (header : Header) : Prop :=
  line.length ≤ maxLength ∧ ∃ source destination sourcePort destinationPort : Bytes,
    line = Bytes.ofText "PROXY " ++ Bytes.ofText header.family.word ++ blank ++ source ++ blank ++
      destination ++ blank ++ sourcePort ++ blank ++ destinationPort ++ Bytes.crlf ∧
    IsWord source ∧ IsWord destination ∧ IsWord sourcePort ∧ IsWord destinationPort ∧
    NamesHost header.family source header.source.host ∧
    NamesHost header.family destination header.destination.host ∧
    NamesPort sourcePort header.source.port ∧ NamesPort destinationPort header.destination.port

/-! ## Words as bytes and as characters -/

theorem isGraphic_ofUInt8 (byte : UInt8) :
    isGraphic (Char.ofUInt8 byte) = true ↔ 0x21 ≤ byte.toNat ∧ byte.toNat ≤ 0x7E := by
  simp [isGraphic]

/-- The check of a token passes exactly on words. -/
theorem checkToken_chars_eq_ok_iff {field : Field} {word : Bytes} :
    checkToken field (Bytes.chars word) = .ok () ↔ IsWord word := by
  have hall : (Bytes.chars word).all isGraphic = true ↔
      ∀ byte ∈ word, 0x21 ≤ byte.toNat ∧ byte.toNat ≤ 0x7E := by
    simp only [Bytes.chars, List.all_map, List.all_eq_true, Function.comp_apply, isGraphic_ofUInt8]
  have hnil : Bytes.chars word ≠ [] ↔ word ≠ [] := by simp [Bytes.chars]
  have hword : Bytes.chars word ≠ [] ∧ (Bytes.chars word).all isGraphic = true ↔ IsWord word :=
    and_congr hnil hall
  rw [← hword, checkToken]
  split
  · rename_i h
    exact iff_of_true rfl h
  · rename_i h
    exact iff_of_false (by simp) h

theorem IsWord.isAscii {word : Bytes} (h : IsWord word) : Bytes.isAscii word = true := by
  rw [Bytes.isAscii, List.all_eq_true]
  intro byte hbyte
  have := (h.2 byte hbyte).2
  rw [decide_eq_true_eq, UInt8.lt_iff_toNat_lt]
  exact Nat.lt_of_le_of_lt this (by decide)

theorem IsWord.blank_not_mem {word : Bytes} (h : IsWord word) : 32 ∉ word := fun hmem =>
  absurd (h.2 32 hmem).1 (by decide)

/-- The second word is read as a family exactly when it is the family's word. -/
theorem ofWord?_eq_some_iff {word : String} {family : Family} :
    Family.ofWord? word = some family ↔ word = family.word := by
  unfold Family.ofWord?
  constructor
  · intro h
    split at h
    · rename_i hword; cases h; exact hword
    split at h
    · rename_i hword; cases h; exact hword
    split at h
    · rename_i hword; cases h; exact hword
    · cases h
  · rintro rfl
    cases family <;> decide

/-- An address word is read exactly as the host it names. -/
theorem parseHost_chars_eq_ok_iff {family : Family} {field : Field} {word : Bytes} {host : Host}
    (hascii : Bytes.isAscii word = true) :
    parseHost family field (Bytes.chars word) = .ok host ↔ NamesHost family word host := by
  constructor
  · intro h
    cases family with
    | tcp4 =>
      cases hip : Address.V4.ofChars? (Bytes.chars word) with
      | none => simp [parseHost, hip] at h
      | some ip =>
        simp only [parseHost, hip, Option.map_some, reduceCtorEq, if_false, Except.ok.injEq] at h
        subst h
        exact .v4 hip
    | tcp6 =>
      cases hip : Address.V6.ofChars? (Bytes.chars word) with
      | none => simp [parseHost, hip] at h
      | some ip =>
        simp only [parseHost, hip, Option.map_some, reduceCtorEq, if_false, Except.ok.injEq] at h
        subst h
        exact .v6 hip
    | unknown =>
      simp only [parseHost, if_true, Except.ok.injEq] at h
      subst h
      exact .token (Bytes.ofText_ofList_chars hascii).symm
  · rintro (hip | hip | htext)
    · simp [parseHost, hip]
    · simp [parseHost, hip]
    · rename_i text
      have hsame : String.ofList (Bytes.chars word) = text := by
        apply Bytes.ofText_injective
        rw [Bytes.ofText_ofList_chars hascii, htext]
      simp [parseHost, hsame]

/-- A port word is read exactly as the port it names. -/
theorem portOf?_chars_eq_some_iff {word : Bytes} {port : UInt16} :
    portOf? (Bytes.chars word) = some port ↔ word ≠ [] ∧ NamesPort word port := by
  have hnil : Bytes.chars word ≠ [] ↔ word ≠ [] := by simp [Bytes.chars]
  have hdigits : (∀ c ∈ Bytes.chars word, c.isDigit = true) ↔
      ∀ byte ∈ word, 48 ≤ byte.toNat ∧ byte.toNat ≤ 57 := by
    simp only [Bytes.chars, List.forall_mem_map, isDigit_iff_toNat, Bytes.toNat_ofUInt8]
  have hvalue : Nat.ofDigitChars 10 (Bytes.chars word) 0 = decimalValue word := by
    simp only [Nat.ofDigitChars_eq_foldl, Bytes.chars, List.foldl_map, Bytes.toNat_ofUInt8,
      Char.reduceToNat, decimalValue]
  rw [portOf?_eq_some_iff, hnil, hdigits, hvalue, NamesPort]

/-! ## The words of a line -/

theorem bind_eq_ok_iff {ε α β : Type} {first : Except ε α} {next : α → Except ε β} {b : β} :
    (first >>= next) = .ok b ↔ ∃ a, first = .ok a ∧ next a = .ok b := by
  cases first with
  | error e => simp [bind, Except.bind]
  | ok a => simp [bind, Except.bind]

theorem parseFamily_eq_ok_iff {word : String} {family : Family} :
    parseFamily word = .ok family ↔ word = family.word := by
  rw [← ofWord?_eq_some_iff, parseFamily]
  cases Family.ofWord? word <;> simp

theorem parsePort_eq_ok_iff {field : Field} {digits : List Char} {port : UInt16} :
    parsePort field digits = .ok port ↔ portOf? digits = some port := by
  rw [parsePort]
  cases portOf? digits <;> simp

/-- Which words say a header: six of them, each read on its own. -/
theorem parseWords_eq_ok_iff {words : List (List Char)} {header : Header} :
    parseWords words = .ok header ↔
      ∃ second source destination sourcePort destinationPort,
        words = [keyword.toList, second, source, destination, sourcePort, destinationPort] ∧
        checkToken .signature keyword.toList = .ok () ∧ checkToken .protocol second = .ok () ∧
        checkToken .sourceAddress source = .ok () ∧
        checkToken .destinationAddress destination = .ok () ∧
        checkToken .sourcePort sourcePort = .ok () ∧
        checkToken .destinationPort destinationPort = .ok () ∧
        String.ofList second = header.family.word ∧
        parseHost header.family .sourceAddress source = .ok header.source.host ∧
        parseHost header.family .destinationAddress destination = .ok header.destination.host ∧
        portOf? sourcePort = some header.source.port ∧
        portOf? destinationPort = some header.destination.port := by
  constructor
  · intro h
    unfold parseWords at h
    split at h
    · rename_i first second source destination sourcePort destinationPort
      simp only [bind_eq_ok_iff] at h
      obtain ⟨_, h1, _, h2, _, h3, _, h4, _, h5, _, h6, h⟩ := h
      by_cases hfirst : first = keyword.toList
      · rw [if_neg (not_not_intro hfirst)] at h
        simp only [bind_eq_ok_iff, parseFamily_eq_ok_iff, parsePort_eq_ok_iff] at h
        obtain ⟨family, hfamily, sourceHost, hsource, destinationHost, hdestination, source,
          hsourcePort, destination, hdestinationPort, h⟩ := h
        cases h
        subst hfirst
        exact ⟨_, _, _, _, _, rfl, h1, h2, h3, h4, h5, h6, hfamily, hsource, hdestination,
          hsourcePort, hdestinationPort⟩
      · rw [if_pos hfirst] at h
        cases h
    · cases h
  · rintro ⟨second, source, destination, sourcePort, destinationPort, rfl, h1, h2, h3, h4, h5, h6,
      hfamily, hsource, hdestination, hsourcePort, hdestinationPort⟩
    simp only [parseWords, bind_eq_ok_iff]
    refine ⟨(), h1, (), h2, (), h3, (), h4, (), h5, (), h6, ?_⟩
    rw [if_neg (not_not_intro rfl)]
    simp only [bind_eq_ok_iff, parseFamily_eq_ok_iff, parsePort_eq_ok_iff]
    exact ⟨header.family, hfamily, _, hsource, _, hdestination, _, hsourcePort, _, hdestinationPort,
      rfl⟩

/-! ## The line as a whole -/

/-- The words of a body are the characters of its pieces. -/
theorem splitOn_chars (body : Bytes) :
    (Bytes.chars body).splitOn ' ' = (body.splitOn 32).map Bytes.chars := by
  rw [show ' ' = Char.ofUInt8 32 from rfl]
  exact splitOn_map body fun _ => Bytes.ofUInt8_injective

/-- Which lines are read, down to their words as bytes. -/
theorem parse_eq_ok_iff_words {line : Bytes} {header : Header} :
    parse line = .ok header ↔
      line.length ≤ maxLength ∧ ∃ body, line = body ++ Bytes.crlf ∧ Bytes.isAscii body = true ∧
        parseWords ((body.splitOn 32).map Bytes.chars) = .ok header := by
  constructor
  · intro h
    unfold parse at h
    split at h
    · cases h
    split at h
    · cases h
    rename_i hlength
    split at h
    · cases h
    rename_i body hbody
    split at h
    · rename_i hascii
      exact ⟨Nat.le_of_not_lt hlength, body, dropEnding?_eq_some_iff.mp hbody, hascii,
        by rw [← splitOn_chars]; exact h⟩
    · cases h
  · rintro ⟨hlength, body, rfl, hascii, hwords⟩
    rw [parse, if_neg (by simp [Bytes.crlf]), if_neg (Nat.not_lt.mpr hlength),
      dropEnding?_eq_some_iff.mpr rfl]
    simp only [hascii, if_true, splitOn_chars, hwords]

/-- The body of a header line is its six words with blanks between them. -/
theorem intercalate_words (family : Family)
    (source destination sourcePort destinationPort : Bytes) :
    [32].intercalate [Bytes.ofText keyword, Bytes.ofText family.word, source, destination,
        sourcePort, destinationPort] =
      Bytes.ofText "PROXY " ++ Bytes.ofText family.word ++ blank ++ source ++ blank ++
        destination ++ blank ++ sourcePort ++ blank ++ destinationPort := by
  have hkeyword : Bytes.ofText "PROXY " = Bytes.ofText keyword ++ [32] := by decide
  rw [hkeyword, show blank = [32] by decide]
  simp

theorem isWord_of_all {word : Bytes} (hne : word ≠ [])
    (h : (word.all fun byte => 0x21 ≤ byte.toNat && byte.toNat ≤ 0x7E) = true) : IsWord word :=
  ⟨hne, fun byte hbyte => by simpa using List.all_eq_true.mp h byte hbyte⟩

theorem isWord_keyword : IsWord (Bytes.ofText keyword) :=
  isWord_of_all (by decide) (by decide)

theorem isWord_word (family : Family) : IsWord (Bytes.ofText family.word) := by
  cases family <;> exact isWord_of_all (by decide) (by decide)

/-- A line that is read says the header that is read from it. -/
theorem says_of_parse {line : Bytes} {header : Header} (h : parse line = .ok header) :
    Says line header := by
  obtain ⟨hlength, body, rfl, hascii, hwords⟩ := parse_eq_ok_iff_words.mp h
  obtain ⟨_, _, _, _, _, hsplit, h1, h2, h3, h4, h5, h6, hfamily, hsource, hdestination,
    hsourcePort, hdestinationPort⟩ := parseWords_eq_ok_iff.mp hwords
  simp only [List.map_eq_cons_iff, List.map_eq_nil_iff] at hsplit
  obtain ⟨first, _, hsplit, hfirst, second, _, rfl, rfl, source, _, rfl, rfl, destination, _, rfl,
    rfl, sourcePort, _, rfl, rfl, destinationPort, _, rfl, rfl, rfl⟩ := hsplit
  rw [checkToken_chars_eq_ok_iff] at h2 h3 h4 h5 h6
  have hkeyword : first = Bytes.ofText keyword := Bytes.chars_injective (by rw [hfirst]; decide)
  have hsecond : second = Bytes.ofText header.family.word := by
    rw [← hfamily, Bytes.ofText_ofList_chars h2.isAscii]
  have hbody : body = [32].intercalate [first, second, source, destination, sourcePort,
      destinationPort] := by
    rw [← hsplit, List.intercalate_splitOn]
  refine ⟨hlength, source, destination, sourcePort, destinationPort, ?_, h3, h4, h5, h6,
    (parseHost_chars_eq_ok_iff h3.isAscii).mp hsource,
    (parseHost_chars_eq_ok_iff h4.isAscii).mp hdestination,
    (portOf?_chars_eq_some_iff.mp hsourcePort).2, (portOf?_chars_eq_some_iff.mp hdestinationPort).2⟩
  rw [hbody, hkeyword, hsecond, intercalate_words]

/-- Words with blanks between them are ASCII. -/
theorem isAscii_intercalate {words : List Bytes} (h : ∀ word ∈ words, IsWord word) :
    Bytes.isAscii ([32].intercalate words) = true := by
  rw [Bytes.isAscii, List.all_eq_true]
  intro byte hbyte
  rcases mem_intercalate hbyte with rfl | ⟨word, hword, hmem⟩
  · decide
  · exact List.all_eq_true.mp (h word hword).isAscii byte hmem

/-- A line that says a header is read as that header. -/
theorem parse_of_says {line : Bytes} {header : Header} (h : Says line header) :
    parse line = .ok header := by
  obtain ⟨hlength, source, destination, sourcePort, destinationPort, rfl, h3, h4, h5, h6, hsource,
    hdestination, hsourcePort, hdestinationPort⟩ := h
  have hwords : ∀ word ∈ [Bytes.ofText keyword, Bytes.ofText header.family.word, source,
      destination, sourcePort, destinationPort], IsWord word := by
    simp only [List.forall_mem_cons]
    exact ⟨isWord_keyword, isWord_word header.family, h3, h4, h5, h6, by simp⟩
  have hkeyword : keyword.toList = Bytes.chars (Bytes.ofText keyword) := by decide
  have hfamily : String.ofList (Bytes.chars (Bytes.ofText header.family.word)) =
      header.family.word := by
    cases header.family <;> decide
  rw [← intercalate_words] at hlength ⊢
  refine parse_eq_ok_iff_words.mpr ⟨hlength, _, rfl, isAscii_intercalate hwords, ?_⟩
  rw [List.splitOn_intercalate 32 (fun word hword => (hwords word hword).blank_not_mem) (by simp)]
  refine parseWords_eq_ok_iff.mpr ⟨_, _, _, _, _, by rw [hkeyword]; rfl, ?_⟩
  rw [hkeyword]
  simp only [checkToken_chars_eq_ok_iff, parseHost_chars_eq_ok_iff h3.isAscii,
    parseHost_chars_eq_ok_iff h4.isAscii, portOf?_chars_eq_some_iff]
  exact ⟨isWord_keyword, isWord_word header.family, h3, h4, h5, h6, hfamily, hsource, hdestination,
    ⟨h5.1, hsourcePort⟩, ⟨h6.1, hdestinationPort⟩⟩

/-- **The reader accepts exactly the grammar**, and gives exactly what the line says. -/
theorem parse_eq_ok_iff_says (line : Bytes) (header : Header) :
    parse line = .ok header ↔ Says line header :=
  ⟨says_of_parse, parse_of_says⟩

end ProxyGate.Header
