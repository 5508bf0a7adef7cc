import ProxyGate.Config.Load
import ProxyGate.Proofs.Address.Socket
import ProxyGate.Proofs.Header.Refusal
import ProxyGate.Proofs.Header.RoundTrip
import ProxyGate.Proofs.Text.Printable
import ProxyGate.Sniff.Report

/-!
# Messages that input cannot forge

A message repeats parts of what it is about: words of a header line, or texts of a configuration.
Whoever wrote these must not be able to end the line of the log that holds the message and to begin
one of their own.

There are three groups.

* Headers.  `Host.isGraphicText_text` covers the three kinds of hosts that a line can name, and the
  rest of the written header is words and numbers.
* Faults of header lines.  `Fault.repeated?` is the text of the line in a fault.  It is one of the
  words between the blanks of an ASCII line (`repeatsWords_of_mem_rules`, `ascii_of_first`), so its
  quotation is printable.
* Problems of configurations.  Their texts may be anything, so `madeOf_message` rests on the
  quotation alone.

`messages_stay_on_line` is the result.
-/

namespace ProxyGate

open ProxyGate.Text

/-- A graphic text is printable. -/
theorem IsGraphicText.madeOf {text : String} (h : IsGraphicText text) : MadeOf IsPrintable text :=
  fun c hc => ⟨Nat.le_of_succ_le (h.2 c hc).1, (h.2 c hc).2⟩

/-- The hosts that a line can name have graphic texts. -/
theorem Host.isGraphicText_text {host : Host} (h : host.IsV4 ∨ host.IsV6 ∨ host.IsToken) :
    IsGraphicText host.text := by
  rcases h with ⟨ip, rfl⟩ | ⟨ip, rfl⟩ | ⟨text, rfl, htext⟩
  · exact Header.isGraphicText_text_v4 ip
  · exact Header.isGraphicText_text_v6 ip
  · exact htext

namespace Header

/-! ## Headers -/

/-- The text of a header that is read is printable. -/
theorem madeOf_text {line : Bytes} {header : Header} (h : parse line = .ok header) :
    MadeOf IsPrintable header.text := by
  have hhosts : IsGraphicText header.source.host.text ∧
      IsGraphicText header.destination.host.text := by
    rcases (says_of_parse h).agreesOnIp_or with (⟨_, hsource, hdestination⟩ |
      ⟨_, hsource, hdestination⟩) | ⟨_, hsource, hdestination⟩
    · exact ⟨Host.isGraphicText_text (.inl hsource), Host.isGraphicText_text (.inl hdestination)⟩
    · exact ⟨Host.isGraphicText_text (.inr (.inl hsource)),
        Host.isGraphicText_text (.inr (.inl hdestination))⟩
    · exact ⟨Host.isGraphicText_text (.inr (.inr hsource)),
        Host.isGraphicText_text (.inr (.inr hdestination))⟩
  have hfamily : MadeOf IsPrintable header.family.word := by cases header.family <;> decide
  refine MadeOf.intercalate (by decide) ?_
  simp only [words, List.forall_mem_cons]
  exact ⟨by decide, hfamily, hhosts.1.madeOf, hhosts.2.madeOf, madeOf_decimal _, madeOf_decimal _,
    fun _ h => absurd h List.not_mem_nil⟩

/-! ## Faults of header lines -/

/-- The text of a line that a fault repeats. -/
def Fault.repeated? : Fault → Option String
  | .unknownFamily word => some word
  | .wrongFamily _ _ address => some address
  | .badPort _ value => some value
  | .empty | .tooLong | .unterminated | .notAscii | .badSignature | .fieldCount _ | .badToken _ =>
    none

/-- What a rule repeats of a line is one of its words. -/
def Rule.RepeatsWords (rule : Rule) : Prop :=
  ∀ ⦃line : Bytes⦄ ⦃fault : Fault⦄ ⦃text : String⦄, rule line fault → fault.repeated? = some text →
    ∃ field, Holds line field (Bytes.ofText text)

theorem repeatsWords_of_mem_rules : ∀ rule ∈ rules, rule.RepeatsWords := by
  have hquiet : ∀ rule : Rule, (∀ line fault, rule line fault → fault.repeated? = none) →
      rule.RepeatsWords := by
    intro rule hnone line fault text hbroken htext
    rw [hnone line fault hbroken] at htext
    cases htext
  have htoken : ∀ field, (Rule.badToken field).RepeatsWords := fun field =>
    hquiet _ fun _ _ h => by rw [h.1]; rfl
  have hhost : ∀ field, (Rule.wrongFamily field).RepeatsWords := by
    rintro field line fault text ⟨family, address, rfl, _, hholds, _⟩ htext
    cases htext
    exact ⟨field, hholds⟩
  have hport : ∀ field, (Rule.badPort field).RepeatsWords := by
    rintro field line fault text ⟨value, rfl, hholds, _⟩ htext
    cases htext
    exact ⟨field, hholds⟩
  simp only [rules, List.forall_mem_cons]
  refine ⟨hquiet _ ?_, hquiet _ ?_, hquiet _ ?_, hquiet _ ?_, hquiet _ ?_, htoken _, htoken _,
    htoken _, htoken _, htoken _, htoken _, hquiet _ ?_, ?_, hhost _, hhost _, hport _, hport _,
    fun _ h => absurd h List.not_mem_nil⟩
  · rintro _ _ ⟨rfl, _⟩; rfl
  · rintro _ _ ⟨rfl, _⟩; rfl
  · rintro _ _ ⟨rfl, _⟩; rfl
  · rintro _ _ ⟨rfl, _⟩; rfl
  · rintro _ _ ⟨_, _, rfl, _⟩; rfl
  · rintro _ _ ⟨rfl, _⟩; rfl
  · rintro line fault text ⟨word, rfl, hholds, _⟩ htext
    cases htext
    exact ⟨.protocol, hholds⟩

/-- A line whose words are looked at is ASCII, and so is what its fault repeats. -/
theorem ascii_of_first {line : Bytes} {fault : Fault} {text : String} (h : First rules line fault)
    (htext : fault.repeated? = some text) : ∀ c ∈ text.toList, c.toNat < 128 := by
  have hlate : ∀ early ∈ [Fault.empty, .tooLong, .unterminated, .notAscii], fault ≠ early := by
    rintro early hearly rfl
    simp only [List.mem_cons, List.not_mem_nil, or_false] at hearly
    rcases hearly with rfl | rfl | rfl | rfl <;> cases htext
  simp only [List.forall_mem_cons] at hlate
  obtain ⟨hempty, htooLong, hunterminated, hnotAscii, _⟩ := hlate
  have hlow : ∀ other, ¬Rule.notAscii line other := by
    have h1 := (first_cons_iff.mp h).resolve_left fun hbroken => hempty hbroken.1
    have h2 := (first_cons_iff.mp h1.2).resolve_left fun hbroken => htooLong hbroken.1
    have h3 := (first_cons_iff.mp h2.2).resolve_left fun hbroken => hunterminated hbroken.1
    exact ((first_cons_iff.mp h3.2).resolve_left fun hbroken => hnotAscii hbroken.1).1
  obtain ⟨before, rule, behind, hrules, hbroken, _⟩ := h
  obtain ⟨field, pieces, hcut, hword⟩ :=
    repeatsWords_of_mem_rules rule (by simp [hrules]) hbroken htext
  have hascii : Bytes.isAscii (Bytes.ofText text) = true := by
    refine List.all_eq_true.mpr fun byte hbyte => decide_eq_true ?_
    have hmem : byte ∈ [32].intercalate pieces :=
      mem_intercalate_of_mem (List.mem_of_getElem? hword) hbyte
    by_contra hhigh
    exact hlow .notAscii ⟨rfl, _, hcut.line_eq, byte, hmem, UInt8.not_lt.mp hhigh⟩
  rw [← Bytes.chars_ofText_of_isAscii hascii, Bytes.chars, List.forall_mem_map]
  intro byte hbyte
  rw [Bytes.toNat_ofUInt8]
  exact UInt8.lt_iff_toNat_lt.mp (of_decide_eq_true (List.all_eq_true.mp hascii byte hbyte))

/-- A fault that repeats only ASCII has a printable message. -/
theorem Fault.madeOf_message {fault : Fault}
    (h : ∀ text, fault.repeated? = some text → ∀ c ∈ text.toList, c.toNat < 128) :
    MadeOf IsPrintable fault.message := by
  have hname : ∀ field : Field, MadeOf IsPrintable field.name := by
    intro field
    cases field <;> decide
  have hword : ∀ family : Family, MadeOf IsPrintable family.word := by
    intro family
    cases family <;> decide
  cases fault with
  | empty | unterminated | notAscii | badSignature => decide
  | tooLong | fieldCount => exact .append (.append (by decide) (madeOf_decimal _)) (by decide)
  | badToken field => exact .append (.append (by decide) (hname field)) (by decide)
  | unknownFamily word => exact .append (by decide) (madeOf_quote_of_ascii (h word rfl))
  | wrongFamily family field address =>
    have hquote := madeOf_quote_of_ascii (h address rfl)
    exact .append (.append (.append (.append (.append (hname field) (by decide)) hquote)
      (by decide)) (hword family)) (by decide)
  | badPort field value =>
    have hquote := madeOf_quote_of_ascii (h value rfl)
    exact .append (.append (.append (hname field) (by decide)) hquote) (by decide)

/-- The message of a fault that a line is refused with is printable. -/
theorem madeOf_message_of_parse {line : Bytes} {fault : Fault} (h : parse line = .error fault) :
    MadeOf IsPrintable fault.message :=
  Fault.madeOf_message fun _ htext =>
    ascii_of_first ((parse_reports_first line).1 fault |>.mp h) htext

end Header

/-! ## Problems of configurations -/

/-- The text of a socket address is printable. -/
theorem Address.Socket.madeOf_text (address : Address.Socket) :
    MadeOf IsPrintable address.text := by
  refine madeOf_ofList.mpr ?_
  cases address with
  | v4 ip port =>
    rw [chars, List.forall_mem_append, List.forall_mem_cons]
    refine ⟨fun c hc => ?_, by decide, fun _ => isPrintable_of_mem_decimal⟩
    rcases ip.eq_dot_or_isDigit_of_mem_chars hc with rfl | hdigit
    · decide
    · exact isPrintable_of_isSome_digitOf? (isSome_digitOf?_of_isDigit hdigit)
  | v6 ip port scope =>
    simp only [chars, List.forall_mem_append, List.forall_mem_cons]
    refine ⟨⟨⟨by decide, fun c hc => ?_⟩, fun c hc => ?_⟩, by decide, by decide,
      fun _ => isPrintable_of_mem_decimal⟩
    · rcases V6.isSome_digitOf?_of_mem_chars hc with rfl | rfl | hdigit
      · decide
      · decide
      · exact isPrintable_of_isSome_digitOf? hdigit
    · rcases mem_scopeChars hc with rfl | hdigit
      · decide
      · exact isPrintable_of_isSome_digitOf? (isSome_digitOf?_of_isDigit hdigit)

/-- The message about a bind address holds no control character, whatever the text of the address
is. -/
theorem BindAddress.Fault.madeOf_message (fault : BindAddress.Fault) :
    MadeOf (¬IsControl ·) fault.message := by
  refine .append (.append (.append (by decide) (madeOf_quote fault.text)) (by decide)) ?_
  cases fault.cause with
  | port text => exact .append (.append (by decide) (madeOf_quote text)) (by decide)
  | address => decide

namespace Config

/-- The message of a problem holds no control character, whatever the texts in it. -/
theorem Problem.madeOf_message (problem : Problem) : MadeOf (¬IsControl ·) problem.message := by
  have hnumber : ∀ value, MadeOf (¬IsControl ·) (number value) := fun value =>
    (madeOf_decimal value).mono fun _ => IsPrintable.not_isControl
  cases problem with
  | noListeners | noHeaderTime => decide
  | badAddress index fault =>
    exact .append (.append (.append (by decide) (hnumber index)) (by decide)) fault.madeOf_message
  | sameAddress index address =>
    have haddress := address.madeOf_text.mono fun _ => IsPrintable.not_isControl
    exact .append (.append (.append (.append (by decide) (hnumber index)) (by decide)) haddress)
      (by decide)
  | noConnections index => exact .append (.append (by decide) (hnumber index)) (by decide)
  | tooManyConnections index =>
    exact .append (.append (.append (by decide) (hnumber index)) (by decide)) (hnumber slotLimit)
  | badMetricsAddress text => exact .append (by decide) (madeOf_quote text)

/-- The message of a configuration that is not accepted holds no control character. -/
theorem madeOf_problemsMessage (problems : List Problem) :
    MadeOf (¬IsControl ·) (LoadFault.problemsMessage problems) := by
  refine .append (by decide) (.intercalate (by decide) ?_)
  rw [List.forall_mem_map]
  exact fun problem _ => problem.madeOf_message

end Config

/-! ## The log -/

/-- The entry for a header that is read is printable, the header included. -/
theorem Sniff.madeOf_acceptedEntry {line : Bytes} {header : Header}
    (h : Header.parse line = .ok header) (replayed : Nat) :
    MadeOf IsPrintable (acceptedEntry header replayed).line := by
  have hheader : MadeOf IsPrintable (" proxy_line=" ++ header.text) :=
    .append (by decide) (Header.madeOf_text h)
  have hreplayed : MadeOf IsPrintable (" replayed=" ++ String.ofList (decimal replayed)) :=
    .append (by decide) (madeOf_decimal replayed)
  have hfields : MadeOf IsPrintable (String.join [" proxy_line=" ++ header.text,
      " replayed=" ++ String.ofList (decimal replayed)]) :=
    .append (.append (by decide) hheader) hreplayed
  have hfront : MadeOf IsPrintable ("DEBUG" ++ " " ++ "PROXY header accepted") := by decide
  exact hfront.append hfields

/-- **Input cannot forge a line of the log.**

* The text of a header that is read consists of printable ASCII, and so does the entry of the log
  that holds it.
* The message of the fault that a line is refused with consists of printable ASCII, too.
* The message about a configuration that is not accepted holds no ASCII control character, whatever
  the texts of the configuration. -/
theorem messages_stay_on_line :
    (∀ (line : Bytes) (header : Header), Header.parse line = .ok header →
      (∀ byte ∈ Bytes.ofText header.text, 0x20 ≤ byte.toNat ∧ byte.toNat ≤ 0x7E) ∧
      ∀ (replayed : Nat), ∀ byte ∈ Bytes.ofText (Sniff.acceptedEntry header replayed).line,
        0x20 ≤ byte.toNat ∧ byte.toNat ≤ 0x7E) ∧
    (∀ (line : Bytes) (fault : Header.Fault), Header.parse line = .error fault →
      ∀ byte ∈ Bytes.ofText fault.message, 0x20 ≤ byte.toNat ∧ byte.toNat ≤ 0x7E) ∧
    ∀ (config : Config) (problems : List Config.Problem), config.validate = .error problems →
      ∀ c ∈ (Config.LoadFault.invalid problems).message.toList, ¬IsControl c := by
  refine ⟨fun line header h => ⟨?_, fun replayed => ?_⟩, fun line fault h => ?_,
    fun config problems _ => ?_⟩
  · exact (Header.madeOf_text h).bytes
  · exact (Sniff.madeOf_acceptedEntry h replayed).bytes
  · exact (Header.madeOf_message_of_parse h).bytes
  · exact Config.madeOf_problemsMessage problems

/-- A line with tokens that quote and escape. -/
def quotingLine : Bytes := Bytes.ofText "PROXY UNKNOWN \"a\\ \x7b1\x7d 1 2\r\n"

/-- The same line under a family that has no such addresses. -/
def quotingLineRefused : Bytes := Bytes.ofText "PROXY TCP4 \"a\\ \x7b1\x7d 1 2\r\n"

/-- A configuration whose address would begin a line of its own. -/
def forging : Config := { listeners := [{ bindAddress := ":80\r\nERROR forged" }] }

/-- What is quoted stays between its quotes, and what would end the line is escaped. -/
theorem messages_stay_on_line_hostile :
    ∃ header fault problems, Header.parse quotingLine = .ok header ∧
      Header.parse quotingLineRefused = .error fault ∧ forging.validate = .error problems ∧
      (∀ byte ∈ Bytes.ofText header.text, 0x20 ≤ byte.toNat ∧ byte.toNat ≤ 0x7E) ∧
      (∀ byte ∈ Bytes.ofText fault.message, 0x20 ≤ byte.toNat ∧ byte.toNat ≤ 0x7E) ∧
      (∀ c ∈ (Config.LoadFault.invalid problems).message.toList, ¬IsControl c) ∧
      fault.message = "source address \"\\\"a\\\\\" is not a valid TCP4 address" ∧
      (Config.LoadFault.invalid problems).message =
        "Validation failed: listener 0: invalid bind address \":80\\r\\nERROR forged\": " ++
          "port \"80\\r\\nERROR forged\" is not in 0..=65535" := by
  have hheader : Header.parse quotingLine =
      .ok ⟨.unknown, ⟨.token "\"a\\", 1⟩, ⟨.token "\x7b1\x7d", 2⟩⟩ := by rfl
  have hfault : Header.parse quotingLineRefused =
      .error (.wrongFamily .tcp4 .sourceAddress "\"a\\") := by rfl
  have hproblems : forging.validate = .error
      [.badAddress 0 ⟨":80\r\nERROR forged", .port "80\r\nERROR forged"⟩] := by rfl
  obtain ⟨hread, hrefused, hinvalid⟩ := messages_stay_on_line
  exact ⟨_, _, _, hheader, hfault, hproblems, (hread _ _ hheader).1, hrefused _ _ hfault,
    hinvalid _ _ hproblems, by decide, by decide⟩

end ProxyGate
