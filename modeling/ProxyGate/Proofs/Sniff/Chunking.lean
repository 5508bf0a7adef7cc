import ProxyGate.Sniff.Report
import ProxyGate.Proofs.Sniff.Window
import ProxyGate.Proofs.Stream.Deadline

/-!
# A search does not depend on how the data is cut

`Settles` is what the data of a connection and its end come to when they are looked at in one piece.
`run_settles` says that a search comes to the same, for every source that gives the data in time:
the induction is over the reads, and its invariant is that the window is open and that window and
unread content are together the data.  `sniff_required_cases` is the result for transports, case by
case.
-/

namespace ProxyGate.Sniff

open ProxyGate.Stream

variable {σ : Type}

/-- The failure that stands for the end of the data inside the header. -/
def endFailure (limit received : Nat) : Script.Ending → Failure
  | .finished => .closed received
  | .failed reason => .io reason
  | .pending => .timeout limit

/-- What data and its end come to, looked at in one piece. -/
inductive Settles (limit : Nat) (data : Bytes) (ending : Script.Ending) (window : Bytes) :
    Except Failure Nat → Prop where
  /-- The data is not that of a header. -/
  | deviates (h : Header.Deviates data) :
      Settles limit data ending window (.error (.refused .badSignature))
  /-- The first line fits into the window, which holds all of it. -/
  | line {length : Nat} (agrees : ¬Header.Deviates data) (first : data.FirstLine length)
      (fits : length ≤ Header.maxLength) (same : window.take length = data.take length) :
      Settles limit data ending window (.ok length)
  /-- The window is full before the first line ends. -/
  | tooLong (agrees : ¬Header.Deviates data)
      (none : ∀ length ≤ Header.maxLength, ¬data.FirstLine length)
      (long : Header.maxLength ≤ data.length) :
      Settles limit data ending window (.error (.refused .tooLong))
  /-- The data ends first. -/
  | ended (agrees : ¬Header.Deviates data) (none : ∀ length, ¬data.FirstLine length)
      (short : data.length < Header.maxLength) :
      Settles limit data ending window (.error (endFailure limit data.length ending))

theorem not_firstLine_of_endless {bytes : Bytes} (h : ∀ position, ¬bytes.CrlfAt position)
    (length : Nat) : ¬bytes.FirstLine length := by
  rintro ⟨position, _, hcrlf, _⟩
  exact h position hcrlf

/-- The end of the data settles a search whose window is still open. -/
theorem settles_of_open (limit : Nat) {window : Bytes} (hopen : Open window)
    (ending : Script.Ending) :
    Settles limit window ending window (.error (endFailure limit window.length ending)) :=
  .ended hopen.agrees (not_firstLine_of_endless hopen.endless) hopen.short

/-- A judgement that ends a search settles it, whatever bytes come behind the window. -/
theorem settles_of_judged (limit : Nat) {window : Bytes}
    (hlength : window.length ≤ Header.maxLength) (unread : Bytes) (ending : Script.Ending) :
    (∀ length, Judged window (.line length) →
      Settles limit (window ++ unread) ending window (.ok length)) ∧
    (∀ fault, Judged window (.refuse fault) →
      Settles limit (window ++ unread) ending window (.error (.refused fault))) := by
  refine ⟨fun length hjudged => ?_, fun fault hjudged => ?_⟩
  · cases hjudged with
    | line agrees first =>
      have hle := first.le_length
      have hsignature := Header.signature_length_lt_of_firstLine agrees first
      refine .line ?_ ((Bytes.firstLine_append_iff hle unread).mpr first)
        (Nat.le_trans hle hlength) (List.take_append_of_le_length hle).symm
      rwa [Header.deviates_append_iff (by omega)]
  · cases hjudged with
    | deviates h => exact .deviates (h.append unread)
    | full agrees endless length =>
      refine .tooLong ?_ (fun other hother hfirst => ?_) ?_
      · rwa [Header.deviates_append_iff (by rw [length]; decide)]
      · rw [Bytes.firstLine_append_iff (by rw [length]; exact hother)] at hfirst
        exact not_firstLine_of_endless endless other hfirst
      · rw [List.length_append]
        omega

/-- The end of the data, if it comes in time, ends the search with the window as it is. -/
theorem step_of_answer {reader : Reader σ} {limit : Nat} {progress : Progress σ}
    {ending : Script.Ending} {wait : Nat} {rest : σ} (htime : progress.elapsed + wait ≤ limit)
    (hread : reader progress.room progress.source = ending.answer wait rest) :
    ∃ last, step reader limit progress =
        .ended last (.error (endFailure limit progress.window.length ending)) ∧
      last.window = progress.window := by
  cases ending with
  | finished =>
    refine ⟨progress.skip wait rest, ?_, rfl⟩
    simp [step, hread, Script.Ending.answer, htime, Progress.receive, endFailure]
  | failed reason =>
    refine ⟨progress.skip wait rest, ?_, rfl⟩
    simp [step, hread, Script.Ending.answer, htime, endFailure]
  | pending =>
    refine ⟨{ progress with elapsed := limit }, ?_, rfl⟩
    simp [step, hread, Script.Ending.answer, Progress.timedOut, endFailure]

/-- Bytes that come in time and fit are received as they are. -/
theorem step_of_got {reader : Reader σ} {limit : Nat} {progress : Progress σ} {wait : Nat}
    {bytes : Bytes} {rest : σ} (htime : progress.elapsed + wait ≤ limit)
    (hroom : bytes.length ≤ progress.room)
    (hread : reader progress.room progress.source = .got wait bytes rest) :
    step reader limit progress = progress.receive wait bytes rest := by
  simp only [step, hread]
  rw [if_pos htime, List.take_of_length_le hroom]

/-- A read goes the same way when every answer beyond the limit is taken for none. -/
theorem step_within (reader : Reader σ) {limit : Nat} {progress : Progress σ}
    (htime : progress.elapsed ≤ limit) :
    step (reader.within (limit - progress.elapsed)) limit progress =
      step reader limit progress := by
  rw [step, step, Reader.within]
  cases reader progress.room progress.source with
  | never => rfl
  | failed wait reason rest =>
    by_cases hwait : wait ≤ limit - progress.elapsed
    · simp only [Pull.within, if_pos hwait]
    · simp only [Pull.within, if_neg hwait]
      rw [if_neg (by omega)]
  | got wait bytes rest =>
    by_cases hwait : wait ≤ limit - progress.elapsed
    · simp only [Pull.within, if_pos hwait]
    · simp only [Pull.within, if_neg hwait]
      rw [if_neg (by omega)]

/-- A search settles what the source has to give within the time that is left. -/
theorem run_settlesBy {reader : Reader σ} {content : Nat → σ → Bytes}
    {ending : Nat → σ → Script.Ending} {holds : Nat → σ → Prop}
    (hfeed : FeedBy reader content ending holds) {limit : Nat} {progress : Progress σ}
    (hopen : Open progress.window) (htime : progress.elapsed ≤ limit)
    (hholds : holds (limit - progress.elapsed) progress.source) :
    Settles limit (progress.window ++ content (limit - progress.elapsed) progress.source)
      (ending (limit - progress.elapsed) progress.source)
      (run reader limit progress).1.window (run reader limit progress).2 := by
  induction hroom : progress.room using Nat.strongRecOn generalizing progress with
  | ind room ih =>
    subst hroom
    by_cases hcontent : content (limit - progress.elapsed) progress.source = []
    · obtain ⟨wait, rest, hwait, hread⟩ :=
        hfeed.ends progress.room (limit - progress.elapsed) progress.source hholds hcontent
      obtain ⟨last, hstep, hwindow⟩ :=
        step_of_answer (by omega : progress.elapsed + wait ≤ limit) hread
      rw [step_within reader htime] at hstep
      rw [run_of_step_ended hstep, hcontent, List.append_nil, hwindow]
      exact settles_of_open limit hopen _
    · obtain ⟨wait, bytes, rest, hread, hwait, hne, hlength, hbytes, hending, hrest⟩ :=
        hfeed.gives progress.room (limit - progress.elapsed) progress.source hholds hopen.room_pos
          hcontent
      have hstep := step_of_got (by omega : progress.elapsed + wait ≤ limit) hlength hread
      obtain ⟨hjudged, hfits⟩ := judged_append hopen hlength
      have hsettled := settles_of_judged limit hfits
        (content (limit - progress.elapsed - wait) rest)
        (ending (limit - progress.elapsed) progress.source)
      rw [Progress.receive, if_neg hne] at hstep
      rw [hbytes, ← List.append_assoc]
      cases hjudge : judge progress.window bytes with
      | more =>
        rw [hjudge] at hstep hjudged
        cases hjudged with
        | more hnext =>
          have hleft : limit - progress.elapsed - wait =
              limit - (progress.push wait bytes rest).elapsed := Nat.sub_sub ..
          rw [run_of_step_reading hstep, ← hending]
          rw [hleft] at hrest ⊢
          refine ih _ (room_lt_of_step_reading hstep) hnext ?_ hrest rfl
          simp only [Progress.push]
          omega
      | line length =>
        rw [hjudge] at hstep hjudged
        rw [run_of_step_ended hstep]
        exact hsettled.1 length hjudged
      | refuse fault =>
        rw [hjudge] at hstep hjudged
        rw [run_of_step_ended hstep]
        exact hsettled.2 fault hjudged

/-- A search over a source that gives everything in time settles what the source has to give. -/
theorem run_settles {reader : Reader σ} {content : σ → Bytes} {ending : σ → Script.Ending}
    {arrival : σ → Nat} (hfeed : Feed reader content ending arrival) {limit : Nat}
    {progress : Progress σ} (hopen : Open progress.window)
    (htime : progress.elapsed + arrival progress.source ≤ limit) :
    Settles limit (progress.window ++ content progress.source) (ending progress.source)
      (run reader limit progress).1.window (run reader limit progress).2 :=
  run_settlesBy hfeed.by hopen (by omega) (by omega)

/-! ## The report -/

/-- The header of an accepted connection is what its first line says. -/
theorem header_conclude_ok (progress : Progress σ) (length : Nat) :
    (conclude progress (.ok length)).map Accepted.header =
      ((Header.parse (progress.window.take length)).map some).mapError .refused := by
  simp only [conclude]
  cases Header.parse (progress.window.take length) with
  | error fault => rfl
  | ok header => rfl

/-- **What a search comes to when everything arrives in time**: it depends on the data and on how
the data ends, and on nothing else of the transport.

* Data that is not that of a header is refused for its first word.
* Otherwise a first line that fits is parsed, and the result is the parser's.
* Otherwise as many bytes as the longest line has, or more, are too long a line.
* Otherwise the end of the data is the result. -/
theorem sniff_required_cases (duplex : Duplex) (limit : Nat)
    (h : duplex.inlet.arrival ≤ limit) :
    let data := duplex.inlet.content
    let result := (sniff Duplex.read limit duplex .required).result.map Accepted.header
    (Header.Deviates data → result = .error (.refused .badSignature)) ∧
    (¬Header.Deviates data →
      (∀ length ≤ Header.maxLength, data.FirstLine length →
        result = ((Header.parse (data.take length)).map some).mapError .refused) ∧
      ((∀ length ≤ Header.maxLength, ¬data.FirstLine length) →
        (Header.maxLength ≤ data.length → result = .error (.refused .tooLong)) ∧
        (data.length < Header.maxLength →
          result = .error (endFailure limit data.length duplex.inlet.ending)))) := by
  intro data result
  have htime : (Progress.start duplex).elapsed + duplex.inlet.arrival ≤ limit := by
    rw [Progress.start, Nat.zero_add]
    exact h
  have hsettles : Settles limit data duplex.inlet.ending
      (run Duplex.read limit (.start duplex)).1.window
      (run Duplex.read limit (.start duplex)).2 :=
    run_settles Duplex.feed_read open_nil htime
  have hresult : result = (conclude (run Duplex.read limit (.start duplex)).1
      (run Duplex.read limit (.start duplex)).2).map Accepted.header := rfl
  rw [hresult]
  generalize (run Duplex.read limit (.start duplex)).2 = outcome at hsettles
  cases hsettles with
  | deviates hdeviates => exact ⟨fun _ => rfl, fun hagrees => absurd hdeviates hagrees⟩
  | line hagrees hfirst hfits hsame =>
    refine ⟨fun hdeviates => absurd hdeviates hagrees, fun _ => ⟨fun length _ hother => ?_, ?_⟩⟩
    · rw [hother.unique hfirst, header_conclude_ok, hsame]
    · exact fun hnone => absurd hfirst (hnone _ hfits)
  | tooLong hagrees hnone hlong =>
    refine ⟨fun hdeviates => absurd hdeviates hagrees, fun _ => ⟨fun length hfits hfirst => ?_, ?_⟩⟩
    · exact absurd hfirst (hnone length hfits)
    · exact fun _ => ⟨fun _ => rfl, fun hshort => absurd hlong (Nat.not_le_of_lt hshort)⟩
  | ended hagrees hnone hshort =>
    refine ⟨fun hdeviates => absurd hdeviates hagrees, fun _ => ⟨fun length _ hfirst => ?_, ?_⟩⟩
    · exact absurd hfirst (hnone length)
    · exact fun _ => ⟨fun hlong => absurd hshort (Nat.not_lt_of_le hlong), fun _ => rfl⟩

/-- A transport whose first line is cut between its carriage return and its line feed. -/
def cutLineEnding : Duplex where
  inlet := .chunked
    [(3, Bytes.ofText "PROXY UNKNOWN a b 1 2\r"), (4, Bytes.ofText "\nGET")] [.stall]

/-- The cut does not matter, nor does it that the line is complete only when the time is up. -/
theorem sniff_required_cutLineEnding :
    cutLineEnding.inlet.arrival ≤ 7 ∧
      (sniff Duplex.read 7 cutLineEnding .required).result.map Accepted.header =
        .ok (some ⟨.unknown, ⟨.token "a", 1⟩, ⟨.token "b", 2⟩⟩) := by
  have harrival : cutLineEnding.inlet.arrival ≤ 7 := by decide
  have hagrees : ¬Header.Deviates cutLineEnding.inlet.content := by
    rw [← Header.signatureMismatch_iff]
    decide
  have hfirst : Bytes.FirstLine cutLineEnding.inlet.content 23 :=
    Bytes.firstLine_iff_crlfAt?.mpr ⟨21, by decide, rfl⟩
  refine ⟨harrival, ?_⟩
  rw [((sniff_required_cases cutLineEnding 7 harrival).2 hagrees).1 23 (by decide) hfirst]
  rfl

end ProxyGate.Sniff
