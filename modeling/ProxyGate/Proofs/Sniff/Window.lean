import ProxyGate.Sniff.Window
import ProxyGate.Proofs.Text.FirstLine
import ProxyGate.Proofs.Stream.Feed

/-!
# The window of a search

A search goes on exactly while its window is `Open`: nothing in it deviates from a header's first
word, there is no line ending, and there is room left.  `judged_judge` is what one judgement says
about the whole window, although it looks at the new bytes only.  `run_of_step_ended` and
`run_of_step_reading` unfold the loop by one read, and `run_ok` is what a whole search conserves:
the bytes of its window and those still unread are together those it started with.
-/

namespace ProxyGate

namespace Header

/-- Bytes that differ from the start of every header line, as far as they go. -/
def Deviates (bytes : Bytes) : Prop :=
  ∃ position < min bytes.length signature.length, bytes[position]? ≠ signature[position]?

/-- The early check tells exactly the bytes that deviate. -/
theorem signatureMismatch_iff (bytes : Bytes) :
    signatureMismatch bytes = true ↔ Deviates bytes := by
  rw [signatureMismatch, Bool.not_eq_true', ← Bool.not_eq_true, List.isPrefixOf_iff_prefix,
    List.prefix_iff_getElem?]
  simp only [List.length_take, Deviates, ne_eq, not_forall]
  refine exists_congr fun position => ?_
  constructor
  · rintro ⟨hlt, hne⟩
    refine ⟨by omega, fun heq => hne ?_⟩
    rw [← heq, List.getElem_take, List.getElem?_eq_getElem]
  · rintro ⟨hlt, hne⟩
    refine ⟨by omega, fun heq => hne ?_⟩
    rw [heq, List.getElem_take, List.getElem?_eq_getElem]

theorem Deviates.append {front : Bytes} (h : Deviates front) (back : Bytes) :
    Deviates (front ++ back) := by
  obtain ⟨position, hlt, hne⟩ := h
  refine ⟨position, by rw [List.length_append]; omega, ?_⟩
  rwa [List.getElem?_append_left (by omega)]

/-- Only as many bytes as the first word has can deviate. -/
theorem deviates_append_iff {front : Bytes} (h : signature.length ≤ front.length) (back : Bytes) :
    Deviates (front ++ back) ↔ Deviates front := by
  refine ⟨?_, fun hfront => hfront.append back⟩
  rintro ⟨position, hlt, hne⟩
  rw [List.getElem?_append_left (by omega)] at hne
  exact ⟨position, by omega, hne⟩

/-- There is no line ending inside the first word. -/
theorem signature_length_le_of_crlfAt {bytes : Bytes} {position : Nat} (h : ¬Deviates bytes)
    (hcrlf : Bytes.CrlfAt bytes position) : signature.length ≤ position := by
  by_contra hlt
  have hbound := hcrlf.lt_length
  have hclean : ∀ i < signature.length, signature[i]? ≠ some 13 := by decide
  refine h ⟨position, by omega, ?_⟩
  rw [hcrlf.1]
  exact (hclean position (by omega)).symm

/-- A first line that does not deviate is longer than the first word. -/
theorem signature_length_lt_of_firstLine {bytes : Bytes} {length : Nat} (h : ¬Deviates bytes)
    (hline : Bytes.FirstLine bytes length) : signature.length + Bytes.crlf.length ≤ length := by
  obtain ⟨position, rfl, hcrlf, _⟩ := hline
  have := signature_length_le_of_crlfAt h hcrlf
  omega

end Header

namespace Sniff

open ProxyGate.Stream

variable {σ : Type}

/-! ## One judgement -/

/-- A window that asks for more bytes. -/
structure Open (window : Bytes) : Prop where
  agrees : ¬Header.Deviates window
  endless : ∀ position, ¬Bytes.CrlfAt window position
  short : window.length < Header.maxLength

theorem open_nil : Open [] where
  agrees := by simp [Header.Deviates]
  endless := by simp [Bytes.CrlfAt]
  short := by decide

/-- What a verdict says about the window as a whole. -/
inductive Judged (window : Bytes) : Verdict → Prop where
  | more (h : Open window) : Judged window .more
  | line {length : Nat} (agrees : ¬Header.Deviates window)
      (first : Bytes.FirstLine window length) : Judged window (.line length)
  | deviates (h : Header.Deviates window) : Judged window (.refuse .badSignature)
  | full (agrees : ¬Header.Deviates window) (endless : ∀ position, ¬Bytes.CrlfAt window position)
      (length : window.length = Header.maxLength) : Judged window (.refuse .tooLong)

/-- A judgement of the new bytes holds of the whole window. -/
theorem judged_judge {seen fresh : Bytes} (hseen : Open seen)
    (hlength : (seen ++ fresh).length ≤ Header.maxLength) :
    Judged (seen ++ fresh) (judge seen fresh) := by
  have hsearch := Bytes.crlfAt?_append_of_none fresh (Bytes.crlfAt?_eq_none_iff.mpr hseen.endless)
  simp only [judge]
  split
  · rename_i hmismatch
    exact .deviates ((Header.signatureMismatch_iff _).mp hmismatch)
  · rename_i hmismatch
    rw [Header.signatureMismatch_iff] at hmismatch
    split
    · rename_i position hposition
      rw [hposition, Option.map_some] at hsearch
      exact .line hmismatch (Bytes.firstLine_iff_crlfAt?.mpr ⟨_, hsearch, rfl⟩)
    · rename_i hnone
      rw [hnone, Option.map_none, Bytes.crlfAt?_eq_none_iff] at hsearch
      split
      · rename_i hfull
        exact .full hmismatch hsearch hfull
      · rename_i hfull
        exact .more ⟨hmismatch, hsearch, Nat.lt_of_le_of_ne hlength hfull⟩

/-! ## One read -/

/-- How long a read takes that is answered at all. -/
def answerTime? : Pull σ → Option Nat
  | .got wait _ _ | .failed wait _ _ => some wait
  | .never => none

/-- Everything that one read can do to a search. -/
inductive Move (reader : Reader σ) (limit : Nat) (progress : Progress σ) : Status σ → Prop where
  /-- No answer comes in time. -/
  | timedOut (hlate : ∀ wait, answerTime? (reader progress.room progress.source) = some wait →
        limit < progress.elapsed + wait) :
      Move reader limit progress (progress.timedOut limit)
  /-- The read fails. -/
  | failed {wait : Nat} {reason : String} {rest : σ}
      (hread : reader progress.room progress.source = .failed wait reason rest)
      (htime : progress.elapsed + wait ≤ limit) :
      Move reader limit progress (.ended (progress.skip wait rest) (.error (.io reason)))
  /-- The data has ended. -/
  | closed {wait : Nat} {bytes : Bytes} {rest : σ}
      (hread : reader progress.room progress.source = .got wait bytes rest)
      (htime : progress.elapsed + wait ≤ limit) (hnone : bytes.take progress.room = []) :
      Move reader limit progress
        (.ended (progress.skip wait rest) (.error (.closed progress.window.length)))
  /-- The window asks for more. -/
  | more {wait : Nat} {bytes : Bytes} {rest : σ}
      (hread : reader progress.room progress.source = .got wait bytes rest)
      (htime : progress.elapsed + wait ≤ limit) (hsome : bytes.take progress.room ≠ [])
      (hjudge : judge progress.window (bytes.take progress.room) = .more) :
      Move reader limit progress (.reading (progress.push wait (bytes.take progress.room) rest))
  /-- The first line is complete. -/
  | line {wait : Nat} {bytes : Bytes} {rest : σ} {length : Nat}
      (hread : reader progress.room progress.source = .got wait bytes rest)
      (htime : progress.elapsed + wait ≤ limit) (hsome : bytes.take progress.room ≠ [])
      (hjudge : judge progress.window (bytes.take progress.room) = .line length) :
      Move reader limit progress
        (.ended (progress.push wait (bytes.take progress.room) rest) (.ok length))
  /-- No header can come any more. -/
  | refused {wait : Nat} {bytes : Bytes} {rest : σ} {fault : Header.Fault}
      (hread : reader progress.room progress.source = .got wait bytes rest)
      (htime : progress.elapsed + wait ≤ limit) (hsome : bytes.take progress.room ≠ [])
      (hjudge : judge progress.window (bytes.take progress.room) = .refuse fault) :
      Move reader limit progress
        (.ended (progress.push wait (bytes.take progress.room) rest) (.error (.refused fault)))

/-- A read does one of these things. -/
theorem move_step (reader : Reader σ) (limit : Nat) (progress : Progress σ) :
    Move reader limit progress (step reader limit progress) := by
  cases hread : reader progress.room progress.source with
  | never =>
    simp only [step, hread]
    exact .timedOut (by simp [hread, answerTime?])
  | failed wait reason rest =>
    simp only [step, hread]
    split
    · rename_i htime
      exact .failed hread htime
    · rename_i htime
      exact .timedOut (by simp only [hread, answerTime?, Option.some.injEq]; omega)
  | got wait bytes rest =>
    simp only [step, hread]
    split
    · rename_i htime
      unfold Progress.receive
      split
      · rename_i hnone
        exact .closed hread htime hnone
      · rename_i hsome
        cases hjudge : judge progress.window (bytes.take progress.room) with
        | more => exact .more hread htime hsome hjudge
        | line length => exact .line hread htime hsome hjudge
        | refuse fault => exact .refused hread htime hsome hjudge
    · rename_i htime
      exact .timedOut (by simp only [hread, answerTime?, Option.some.injEq]; omega)

theorem Open.room_pos {progress : Progress σ} (h : Open progress.window) : 0 < progress.room :=
  Nat.sub_pos_of_lt h.short

/-- What an open window has room for is judged with it as a whole. -/
theorem judged_append {progress : Progress σ} (hopen : Open progress.window) {bytes : Bytes}
    (hroom : bytes.length ≤ progress.room) :
    Judged (progress.window ++ bytes) (judge progress.window bytes) ∧
      (progress.window ++ bytes).length ≤ Header.maxLength := by
  have hlength : (progress.window ++ bytes).length ≤ Header.maxLength := by
    have hshort := hopen.short
    rw [Progress.room] at hroom
    rw [List.length_append]
    omega
  exact ⟨judged_judge hopen hlength, hlength⟩

/-- The bytes of a read that an open window takes are judged with it. -/
theorem judged_take {progress : Progress σ} (hopen : Open progress.window) (bytes : Bytes) :
    Judged (progress.window ++ bytes.take progress.room)
        (judge progress.window (bytes.take progress.room)) ∧
      (progress.window ++ bytes.take progress.room).length ≤ Header.maxLength :=
  judged_append hopen (List.length_take_le progress.room bytes)

/-- What a read gives to an open window is no longer unread. -/
theorem unread_of_got {reader : Reader σ} {unread : σ → Bytes} {progress : Progress σ} {wait : Nat}
    {bytes : Bytes} {rest : σ} (hreader : Yields reader unread) (hopen : Open progress.window)
    (hread : reader progress.room progress.source = .got wait bytes rest)
    (hsome : bytes.take progress.room ≠ []) :
    let next := progress.push wait (bytes.take progress.room) rest
    progress.window ++ unread progress.source = next.window ++ unread next.source := by
  have hne : bytes ≠ [] := by
    rintro rfl
    exact hsome List.take_nil
  obtain ⟨hroom, hunread⟩ := hreader hopen.room_pos hread hne
  rw [List.take_of_length_le hroom]
  simp only [Progress.push, List.append_assoc, hunread]

/-! ## The loop -/

theorem run_of_step_ended {reader : Reader σ} {limit : Nat} {progress last : Progress σ}
    {outcome : Except Failure Nat} (h : step reader limit progress = .ended last outcome) :
    run reader limit progress = (last, outcome) := by
  rw [run]
  split
  · rename_i hstep
    rw [h] at hstep
    cases hstep
    rfl
  · rename_i hstep
    rw [h] at hstep
    cases hstep

theorem run_of_step_reading {reader : Reader σ} {limit : Nat} {progress next : Progress σ}
    (h : step reader limit progress = .reading next) :
    run reader limit progress = run reader limit next := by
  rw [run]
  split
  · rename_i hstep
    rw [h] at hstep
    cases hstep
  · rename_i hstep
    rw [h] at hstep
    cases hstep
    rfl

/-- What the window of an ended search says about its outcome. -/
inductive Stopped (window : Bytes) : Except Failure Nat → Prop where
  | line {length : Nat} (h : Judged window (.line length)) : Stopped window (.ok length)
  | refused {fault : Header.Fault} (h : Judged window (.refuse fault)) :
      Stopped window (.error (.refused fault))
  | closed (h : Open window) : Stopped window (.error (.closed window.length))
  | timeout {limit : Nat} (h : Open window) : Stopped window (.error (.timeout limit))
  | io {reason : String} (h : Open window) : Stopped window (.error (.io reason))

/-- A search that goes on keeps its window open, whatever the source. -/
theorem open_of_step_reading {reader : Reader σ} {limit : Nat} {progress next : Progress σ}
    (hopen : Open progress.window) (h : step reader limit progress = .reading next) :
    Open next.window := by
  have hmove := move_step reader limit progress
  rw [h] at hmove
  cases hmove with
  | @more wait bytes rest hread htime hsome hjudge =>
    have hjudged := (judged_take hopen bytes).1
    rw [hjudge] at hjudged
    cases hjudged with
    | more hnext => exact hnext

/-- A read that ends a search leaves a window that bears its outcome out, whatever the source. -/
theorem stopped_of_step_ended {reader : Reader σ} {limit : Nat} {progress last : Progress σ}
    {outcome : Except Failure Nat} (hopen : Open progress.window)
    (h : step reader limit progress = .ended last outcome) :
    Stopped last.window outcome ∧ last.window.length ≤ Header.maxLength := by
  have hmove := move_step reader limit progress
  have hshort := Nat.le_of_lt hopen.short
  rw [h] at hmove
  cases hmove with
  | timedOut => exact ⟨.timeout hopen, hshort⟩
  | failed => exact ⟨.io hopen, hshort⟩
  | closed => exact ⟨.closed hopen, hshort⟩
  | @line wait bytes rest length hread htime hsome hjudge =>
    obtain ⟨hjudged, hlength⟩ := judged_take hopen bytes
    rw [hjudge] at hjudged
    exact ⟨.line hjudged, hlength⟩
  | @refused wait bytes rest fault hread htime hsome hjudge =>
    obtain ⟨hjudged, hlength⟩ := judged_take hopen bytes
    rw [hjudge] at hjudged
    exact ⟨.refused hjudged, hlength⟩

/-- The window of an ended search bears its outcome out and is no longer than the longest header,
whatever the source. -/
theorem run_stopped (reader : Reader σ) (limit : Nat) {progress : Progress σ}
    (hopen : Open progress.window) :
    Stopped (run reader limit progress).1.window (run reader limit progress).2 ∧
      (run reader limit progress).1.window.length ≤ Header.maxLength := by
  induction progress using run.induct reader limit with
  | case1 progress last outcome hstep =>
    rw [run_of_step_ended hstep]
    exact stopped_of_step_ended hopen hstep
  | case2 progress next hstep ih =>
    rw [run_of_step_reading hstep]
    exact ih (open_of_step_reading hopen hstep)

/-- A search that its window ends, with a line or with a fault, has lost no byte. -/
theorem run_conserves {reader : Reader σ} {unread : σ → Bytes} {limit : Nat}
    {progress : Progress σ} (hreader : Yields reader unread) (hopen : Open progress.window)
    (h : (∃ length, (run reader limit progress).2 = .ok length) ∨
      ∃ fault, (run reader limit progress).2 = .error (.refused fault)) :
    progress.window ++ unread progress.source =
      (run reader limit progress).1.window ++ unread (run reader limit progress).1.source := by
  induction progress using run.induct reader limit with
  | case1 progress last outcome hstep =>
    rw [run_of_step_ended hstep] at h ⊢
    have hmove := move_step reader limit progress
    rw [hstep] at hmove
    cases hmove with
    | timedOut | failed | closed => simp at h
    | line hread _ hsome _ => exact unread_of_got hreader hopen hread hsome
    | refused hread _ hsome _ => exact unread_of_got hreader hopen hread hsome
  | case2 progress next hstep ih =>
    rw [run_of_step_reading hstep] at h ⊢
    refine Eq.trans ?_ (ih (open_of_step_reading hopen hstep) h)
    have hmove := move_step reader limit progress
    rw [hstep] at hmove
    cases hmove with
    | more hread _ hsome _ => exact unread_of_got hreader hopen hread hsome

/-- A search that finds a line has it in its window and has lost no byte. -/
theorem run_ok {reader : Reader σ} {unread : σ → Bytes} {limit : Nat}
    {progress last : Progress σ} {length : Nat} (hreader : Yields reader unread)
    (hopen : Open progress.window) (h : run reader limit progress = (last, .ok length)) :
    Judged last.window (.line length) ∧
      progress.window ++ unread progress.source = last.window ++ unread last.source := by
  have hbytes := run_conserves hreader hopen (Or.inl ⟨length, congrArg Prod.snd h⟩)
  have hstopped := (run_stopped reader limit hopen).1
  rw [h] at hbytes hstopped
  cases hstopped with
  | line hjudged => exact ⟨hjudged, hbytes⟩

end Sniff

end ProxyGate
