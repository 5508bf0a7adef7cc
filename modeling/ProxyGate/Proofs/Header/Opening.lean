import ProxyGate.Proofs.Header.Grammar
import ProxyGate.Proofs.Sniff.Window

/-!
# Header lines at the front of other bytes

A connection `Opens` with a header when some first part of its bytes is a line that says the header.
There is at most one such part: a header line is its own first line, `firstLine_of_parse`, so of two
that open the same bytes neither can be longer (`eq_of_prefix_of_parse`).  Bytes that deviate from
the first word of a header open with none, nor do as many bytes as the longest line has when there
is no line ending among them; and it does not matter what comes behind.

The last section says what is left to complain about in a line that was found by its first word and
its line ending.
-/

namespace ProxyGate.Header

open ProxyGate.Text

/-- The bytes begin with a line that says a header. -/
def Opens (bytes : Bytes) (header : Header) : Prop :=
  ∃ line, line <+: bytes ∧ parse line = .ok header

/-! ## A header line is its own first line -/

/-- The body of a header line has no control character in it. -/
theorem not_mem_intercalate_of_isWord {words : List Bytes} (h : ∀ word ∈ words, IsWord word) :
    (13 : UInt8) ∉ [32].intercalate words := by
  intro hmem
  rcases mem_intercalate hmem with heq | ⟨word, hword, hin⟩
  · exact absurd heq (by decide)
  · exact absurd ((h word hword).2 13 hin).1 (by decide)

/-- The words of a line with blanks between them, and the line ending, are the line. -/
theorem Says.eq_words {line : Bytes} {header : Header} (h : Says line header) :
    ∃ source destination sourcePort destinationPort : Bytes,
      line = [32].intercalate [Bytes.ofText keyword, Bytes.ofText header.family.word, source,
        destination, sourcePort, destinationPort] ++ Bytes.crlf ∧
      ∀ word ∈ [Bytes.ofText keyword, Bytes.ofText header.family.word, source, destination,
        sourcePort, destinationPort], IsWord word := by
  obtain ⟨_, source, destination, sourcePort, destinationPort, hline, h3, h4, h5, h6, _⟩ := h
  refine ⟨source, destination, sourcePort, destinationPort, by rw [intercalate_words]; exact hline,
    ?_⟩
  simp only [List.forall_mem_cons]
  exact ⟨isWord_keyword, isWord_word header.family, h3, h4, h5, h6, by simp⟩

theorem firstLine_append_crlf {body : Bytes} (h : (13 : UInt8) ∉ body) :
    (body ++ Bytes.crlf).FirstLine (body ++ Bytes.crlf).length := by
  refine ⟨body.length, List.length_append, ?_, fun earlier hlt hcrlf => ?_⟩
  · simp [Bytes.CrlfAt, Bytes.crlf]
  · have hcr := hcrlf.1
    rw [List.getElem?_append_left hlt] at hcr
    exact h (List.mem_of_getElem? hcr)

/-- A line that is read is its own first line. -/
theorem firstLine_of_parse {line : Bytes} {header : Header} (h : parse line = .ok header) :
    line.FirstLine line.length := by
  obtain ⟨_, _, _, _, rfl, hwords⟩ := (says_of_parse h).eq_words
  exact firstLine_append_crlf (not_mem_intercalate_of_isWord hwords)

theorem length_le_of_parse {line : Bytes} {header : Header} (h : parse line = .ok header) :
    line.length ≤ maxLength :=
  (says_of_parse h).1

/-- A line that is read starts with the first word of every header. -/
theorem signature_prefix_of_parse {line : Bytes} {header : Header} (h : parse line = .ok header) :
    signature <+: line := by
  obtain ⟨_, _, _, _, _, hline, _⟩ := says_of_parse h
  rw [hline]
  simp only [List.append_assoc]
  exact List.prefix_append _ _

/-! ## What opens a connection -/

/-- Behind a prefix that is read, and that it is the first line of, anything may come. -/
theorem firstLine_of_prefix_of_parse {bytes line : Bytes} {header : Header}
    (hline : line <+: bytes) (h : parse line = .ok header) : bytes.FirstLine line.length := by
  obtain ⟨rest, rfl⟩ := hline
  exact (Bytes.firstLine_append_iff (Nat.le_refl _) rest).mpr (firstLine_of_parse h)

/-- **Header lines are prefix-free**: at most one opens the same bytes. -/
theorem eq_of_prefix_of_parse {bytes line line' : Bytes} {header header' : Header}
    (hline : line <+: bytes) (hline' : line' <+: bytes) (h : parse line = .ok header)
    (h' : parse line' = .ok header') : line = line' := by
  have hlength : line.length = line'.length :=
    (firstLine_of_prefix_of_parse hline h).unique (firstLine_of_prefix_of_parse hline' h')
  rw [List.prefix_iff_eq_take.mp hline, List.prefix_iff_eq_take.mp hline', hlength]

/-- What opens a connection is its first line. -/
theorem opens_iff_firstLine {bytes : Bytes} {header : Header} :
    Opens bytes header ↔ ∃ length ≤ maxLength, bytes.FirstLine length ∧
      parse (bytes.take length) = .ok header := by
  constructor
  · rintro ⟨line, hline, h⟩
    refine ⟨line.length, length_le_of_parse h, firstLine_of_prefix_of_parse hline h, ?_⟩
    rwa [← List.prefix_iff_eq_take.mp hline]
  · rintro ⟨length, _, _, h⟩
    exact ⟨bytes.take length, List.take_prefix length bytes, h⟩

theorem Opens.agrees {bytes : Bytes} {header : Header} (h : Opens bytes header) :
    ¬Deviates bytes := by
  obtain ⟨line, hline, hparse⟩ := h
  obtain ⟨rest, rfl⟩ := (signature_prefix_of_parse hparse).trans hline
  rintro ⟨position, hlt, hne⟩
  exact hne (List.getElem?_append_left (by omega))

theorem not_opens_of_deviates {front : Bytes} (h : Deviates front) (back : Bytes)
    (header : Header) : ¬Opens (front ++ back) header :=
  fun hopens => hopens.agrees (h.append back)

/-- Once as many bytes as the longest line has are there without a line ending, no header opens
them, whatever comes behind. -/
theorem not_opens_of_endless {front : Bytes} (hlength : front.length = maxLength)
    (h : ∀ position, ¬Bytes.CrlfAt front position) (back : Bytes) (header : Header) :
    ¬Opens (front ++ back) header := by
  rw [opens_iff_firstLine]
  rintro ⟨length, hle, hfirst, _⟩
  rw [Bytes.firstLine_append_iff (by omega)] at hfirst
  obtain ⟨position, _, hcrlf, _⟩ := hfirst
  exact h position hcrlf

/-! ## What can be wrong with a line that was found -/

theorem bind_eq_error_iff {ε α β : Type} {first : Except ε α} {next : α → Except ε β} {e : ε} :
    (first >>= next) = .error e ↔
      first = .error e ∨ ∃ a, first = .ok a ∧ next a = .error e := by
  cases first with
  | error e' => simp [bind, Except.bind]
  | ok a => simp [bind, Except.bind]

theorem checkToken_eq_error {field : Field} {token : List Char} {fault : Fault}
    (h : checkToken field token = .error fault) : fault = .badToken field := by
  unfold checkToken at h
  split at h <;> cases h
  rfl

theorem parseFamily_eq_error {word : String} {fault : Fault}
    (h : parseFamily word = .error fault) : fault = .unknownFamily word := by
  unfold parseFamily at h
  split at h <;> cases h
  rfl

theorem parseHost_eq_error {family : Family} {field : Field} {token : List Char} {fault : Fault}
    (h : parseHost family field token = .error fault) :
    fault = .wrongFamily family field (String.ofList token) := by
  unfold parseHost at h
  dsimp only at h
  split at h
  · cases h
  · split at h <;> cases h
    rfl

theorem parsePort_eq_error {field : Field} {token : List Char} {fault : Fault}
    (h : parsePort field token = .error fault) :
    fault = .badPort field (String.ofList token) := by
  unfold parsePort at h
  split at h <;> cases h
  rfl

/-- The words are never blamed for what is wrong with the line as a whole, and the first word only
when it is not the keyword. -/
theorem parseWords_eq_error {words : List (List Char)} {fault : Fault}
    (h : parseWords words = .error fault) :
    fault ∉ [Fault.empty, .tooLong, .unterminated, .notAscii] ∧
      (fault = .badSignature → words.head? ≠ some keyword.toList) := by
  unfold parseWords at h
  split at h
  · rename_i first second source destination sourcePort destinationPort
    simp only [bind_eq_error_iff] at h
    rcases h with h | ⟨_, _, h | ⟨_, _, h | ⟨_, _, h | ⟨_, _, h | ⟨_, _, h | ⟨_, _, h⟩⟩⟩⟩⟩⟩
    iterate 6 · simp [checkToken_eq_error h]
    by_cases hfirst : first = keyword.toList
    · rw [if_neg (not_not_intro hfirst)] at h
      simp only [bind_eq_error_iff] at h
      rcases h with h | ⟨_, _, h | ⟨_, _, h | ⟨_, _, h | ⟨_, _, h | ⟨_, _, h⟩⟩⟩⟩⟩
      · simp [parseFamily_eq_error h]
      iterate 2 · simp [parseHost_eq_error h]
      iterate 2 · simp [parsePort_eq_error h]
      · cases h
    · rw [if_pos hfirst] at h
      cases h
      simpa using hfirst
  · cases h
    simp

/-- The first word of a line that starts like a header is the keyword. -/
theorem head?_splitOn_of_signature {body : Bytes} (h : signature <+: body) :
    ((Bytes.chars body).splitOn ' ').head? = some keyword.toList := by
  obtain ⟨rest, rfl⟩ := h
  have hchars : Bytes.chars (signature ++ rest) = keyword.toList ++ ' ' :: Bytes.chars rest := by
    rw [Bytes.chars, List.map_append, show signature.map Char.ofUInt8 = keyword.toList ++ [' '] by
      decide, List.append_assoc]
    rfl
  rw [hchars, List.splitOn_append_cons_self_of_not_mem (by decide)]
  rfl

/-- As many bytes as the first word of a header has either deviate from it or are it. -/
theorem signature_prefix_of_agrees {bytes : Bytes} (hagrees : ¬Deviates bytes)
    (hlength : signature.length ≤ bytes.length) : signature <+: bytes := by
  rw [← signatureMismatch_iff, signatureMismatch, Bool.not_eq_true', Bool.not_eq_false,
    List.isPrefixOf_iff_prefix] at hagrees
  have hsame : bytes.take signature.length = signature :=
    hagrees.eq_of_length (by rw [List.length_take_of_le hlength])
  rw [← hsame]
  exact List.take_prefix _ _

/-- A line that ends where its first line does is taken apart there. -/
theorem eq_append_crlf_of_firstLine {line : Bytes} (h : line.FirstLine line.length) :
    ∃ body, line = body ++ Bytes.crlf := by
  obtain ⟨position, hlength, ⟨hcr, hlf⟩, _⟩ := h
  rw [show Bytes.crlf.length = 2 from rfl] at hlength
  refine ⟨line.take position, ?_⟩
  have hdrop : line.drop position = Bytes.crlf := by
    rw [List.drop_eq_getElem_cons (by omega), List.drop_eq_getElem_cons (by omega),
      List.drop_eq_nil_of_le (by omega), ← Option.some.injEq]
    simp only [List.getElem?_eq_some_iff] at hcr hlf
    rw [hcr.2, hlf.2]
    rfl
  rw [← hdrop, List.take_append_drop]

/-- A line that was found by its first word and its line ending is refused, if at all, for its
words or for a byte that is not ASCII. -/
theorem parse_eq_error_of_firstLine {line : Bytes} {fault : Fault} (hagrees : ¬Deviates line)
    (hfirst : line.FirstLine line.length) (hlength : line.length ≤ maxLength)
    (h : parse line = .error fault) :
    fault ∉ [Fault.empty, .tooLong, .unterminated, .badSignature] := by
  have hlong := signature_length_lt_of_firstLine hagrees hfirst
  have hsignature := signature_prefix_of_agrees hagrees (by omega)
  obtain ⟨body, rfl⟩ := eq_append_crlf_of_firstLine hfirst
  rw [List.length_append] at hlong
  have hbody : signature <+: body :=
    List.prefix_of_prefix_length_le hsignature (List.prefix_append body _) (by omega)
  rw [parse, if_neg (by simp [Bytes.crlf]), if_neg (Nat.not_lt.mpr hlength),
    dropEnding?_eq_some_iff.mpr rfl] at h
  dsimp only at h
  split at h
  · obtain ⟨hwords, hkeyword⟩ := parseWords_eq_error h
    have hfault : fault ≠ .badSignature := fun heq =>
      hkeyword heq (head?_splitOn_of_signature hbody)
    simp only [List.mem_cons, not_or] at hwords ⊢
    exact ⟨hwords.1, hwords.2.1, hwords.2.2.1, hfault, List.not_mem_nil⟩
  · cases h
    decide

end ProxyGate.Header
