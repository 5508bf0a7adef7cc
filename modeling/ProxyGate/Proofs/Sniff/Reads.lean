import ProxyGate.Proofs.Sniff.Append
import ProxyGate.Proofs.Sniff.Deadline

/-!
# The reads of a search

The loop of a search has no counter, and its source may go on for ever.  `course` is the search as it
stands before each of its reads, for a source that keeps to the room it is given (`Fits`):

* `open_of_mem_course` says that every read has room, and `closed_iff` that a read without bytes
  is therefore the end of the data.
* `length_course_le` bounds the number of reads by the room at the start, since each one that does
  not end the search takes some of it.
* `window_run` says that the window is all that the reads gave.
* `exists_enough` says that a source that answers every read brings the search to an end by itself.
-/

namespace ProxyGate.Sniff

open ProxyGate.Stream

variable {σ : Type} {reader : Reader σ} {limit : Nat} {progress : Progress σ}

/-- A source that gives no more bytes than there is room for. -/
def Fits (reader : Reader σ) : Prop :=
  ∀ room source wait bytes rest, reader room source = .got wait bytes rest → bytes.length ≤ room

/-- A source that keeps to the room is taken at its word. -/
theorem Fits.take_eq (hfits : Fits reader) {room wait : Nat} {source rest : σ} {bytes : Bytes}
    (hread : reader room source = .got wait bytes rest) : bytes.take room = bytes :=
  List.take_of_length_le (hfits _ _ _ _ _ hread)

/-- A search as it stands before each of its reads. -/
def course (reader : Reader σ) (limit : Nat) (progress : Progress σ) : List (Progress σ) :=
  match _h : step reader limit progress with
  | .ended _ _ => [progress]
  | .reading next => progress :: course reader limit next
termination_by progress.room
decreasing_by exact room_lt_of_step_reading ‹_›

theorem course_of_step_ended {last : Progress σ} {outcome : Except Failure Nat}
    (h : step reader limit progress = .ended last outcome) :
    course reader limit progress = [progress] := by
  rw [course]
  split
  · rfl
  · rename_i hstep
    rw [h] at hstep
    cases hstep

theorem course_of_step_reading {next : Progress σ}
    (h : step reader limit progress = .reading next) :
    course reader limit progress = progress :: course reader limit next := by
  rw [course]
  split
  · rename_i hstep
    rw [h] at hstep
    cases hstep
  · rename_i hstep
    rw [h] at hstep
    cases hstep
    rfl

/-! ## Room -/

/-- Whenever a search reads, its window is open. -/
theorem open_of_mem_course (hopen : Open progress.window) {now : Progress σ}
    (hmem : now ∈ course reader limit progress) : Open now.window := by
  induction progress using run.induct reader limit with
  | case1 progress last outcome hstep =>
    rw [course_of_step_ended hstep] at hmem
    cases List.mem_singleton.mp hmem
    exact hopen
  | case2 progress next hstep ih =>
    rw [course_of_step_reading hstep] at hmem
    rcases List.mem_cons.mp hmem with rfl | hlater
    · exact hopen
    · exact ih (open_of_step_reading hopen hstep) hlater

/-- There are no more reads than there is room for bytes. -/
theorem length_course_le (hopen : Open progress.window) :
    (course reader limit progress).length ≤ progress.room := by
  induction progress using run.induct reader limit with
  | case1 progress last outcome hstep =>
    rw [course_of_step_ended hstep]
    exact hopen.room_pos
  | case2 progress next hstep ih =>
    have hroom := room_lt_of_step_reading hstep
    have hlater := ih (open_of_step_reading hopen hstep)
    rw [course_of_step_reading hstep, List.length_cons]
    omega

/-- A search finds the data closed exactly when one of its reads gives nothing. -/
theorem closed_iff (hopen : Open progress.window) (received : Nat) :
    (run reader limit progress).2 = .error (.closed received) ↔
      ∃ last ∈ course reader limit progress, ∃ wait rest,
        reader last.room last.source = .got wait [] rest ∧ last.elapsed + wait ≤ limit ∧
        last.window.length = received := by
  induction progress using run.induct reader limit with
  | case1 progress last outcome hstep =>
    rw [run_of_step_ended hstep, course_of_step_ended hstep]
    simp only [List.mem_singleton, exists_eq_left]
    constructor
    · intro houtcome
      have hmove := move_step reader limit progress
      rw [hstep] at hmove
      cases hmove with
      | timedOut | failed | line | refused => cases houtcome
      | @closed wait bytes rest hread htime hnone =>
        have hempty : bytes = [] := by
          rw [List.take_eq_nil_iff] at hnone
          exact hnone.resolve_left (Nat.ne_of_gt hopen.room_pos)
        rw [hempty] at hread
        cases houtcome
        exact ⟨wait, rest, hread, htime, rfl⟩
    · rintro ⟨wait, rest, hread, htime, rfl⟩
      have hclosed : step reader limit progress =
          .ended (progress.skip wait rest) (.error (.closed progress.window.length)) := by
        simp only [step, hread, if_pos htime, Progress.receive, List.take_nil, if_true]
      rw [hstep] at hclosed
      cases hclosed
      rfl
  | case2 progress next hstep ih =>
    rw [run_of_step_reading hstep, course_of_step_reading hstep,
      ih (open_of_step_reading hopen hstep)]
    constructor
    · rintro ⟨last, hmem, hlast⟩
      exact ⟨last, List.mem_cons_of_mem _ hmem, hlast⟩
    · rintro ⟨last, hmem, wait, rest, hread, htime, hlength⟩
      rcases List.mem_cons.mp hmem with rfl | hlater
      · -- A search that goes on has been given something.
        simp [step, hread, if_pos htime, Progress.receive] at hstep
      · exact ⟨last, hlater, wait, rest, hread, htime, hlength⟩

/-! ## Bytes -/

/-- The bytes that a read gives in time. -/
def given (reader : Reader σ) (limit : Nat) (progress : Progress σ) : Bytes :=
  match reader progress.room progress.source with
  | .got wait bytes _ => if progress.elapsed + wait ≤ limit then bytes else []
  | .failed _ _ _ | .never => []

theorem given_of_got {wait : Nat} {bytes : Bytes} {rest : σ}
    (hread : reader progress.room progress.source = .got wait bytes rest)
    (htime : progress.elapsed + wait ≤ limit) : given reader limit progress = bytes := by
  simp only [given, hread]
  exact if_pos htime

/-- One read adds to the window what it gives. -/
theorem window_step (hfits : Fits reader) (limit : Nat) (progress : Progress σ) :
    (step reader limit progress).progress.window =
      progress.window ++ given reader limit progress := by
  have hmove := move_step reader limit progress
  generalize step reader limit progress = status at hmove ⊢
  cases hmove with
  | timedOut hlate =>
    have hnone : given reader limit progress = [] := by
      unfold given
      cases hread : reader progress.room progress.source with
      | never | failed => rfl
      | got wait bytes rest =>
        have hwait := hlate wait (by rw [hread]; rfl)
        exact if_neg (by omega)
    rw [hnone, List.append_nil]
    rfl
  | failed hread =>
    have hnone : given reader limit progress = [] := by simp only [given, hread]
    rw [hnone, List.append_nil]
    rfl
  | closed hread htime hnone =>
    rw [hfits.take_eq hread] at hnone
    rw [given_of_got hread htime, hnone, List.append_nil]
    rfl
  | more hread htime | line hread htime | refused hread htime =>
    rw [given_of_got hread htime, hfits.take_eq hread]
    rfl

/-- The window of a search is all that its reads gave. -/
theorem window_run (hfits : Fits reader) (limit : Nat) (progress : Progress σ) :
    (run reader limit progress).1.window =
      progress.window ++ (course reader limit progress).flatMap (given reader limit) := by
  induction progress using run.induct reader limit with
  | case1 progress last outcome hstep =>
    have hwindow := window_step hfits limit progress
    rw [hstep] at hwindow
    rw [run_of_step_ended hstep, course_of_step_ended hstep, List.flatMap_singleton]
    exact hwindow
  | case2 progress next hstep ih =>
    have hwindow : next.window = progress.window ++ given reader limit progress := by
      have hstatus := window_step hfits limit progress
      rw [hstep] at hstatus
      exact hstatus
    rw [run_of_step_reading hstep, course_of_step_reading hstep, ih, hwindow,
      List.flatMap_cons, List.append_assoc]

/-! ## The end -/

/-- A source that answers every read brings a search to an end by itself, if there is time enough. -/
theorem exists_enough (hanswers : ∀ room source, 0 < room → reader room source ≠ .never)
    (hopen : Open progress.window) :
    ∃ enough, ∀ time, (run reader enough progress).2 ≠ .error (.timeout time) := by
  induction hroom : progress.room using Nat.strongRecOn generalizing progress with
  | ind room ih =>
    obtain ⟨wait, hwait⟩ : ∃ wait,
        answerTime? (reader progress.room progress.source) = some wait := by
      have hanswer := hanswers progress.room progress.source hopen.room_pos
      cases hread : reader progress.room progress.source with
      | never => exact absurd hread hanswer
      | failed wait reason rest | got wait bytes rest => exact ⟨wait, rfl⟩
    -- The answer to the next read comes exactly at `soon`.
    let soon := progress.elapsed + wait
    have hmove := move_step reader soon progress
    cases hstep : step reader soon progress with
    | ended last outcome =>
      refine ⟨soon, fun time houtcome => ?_⟩
      rw [run_of_step_ended hstep] at houtcome
      rw [hstep] at hmove
      cases hmove with
      | timedOut hlate => exact absurd (hlate wait hwait) (Nat.lt_irrefl _)
      | failed | closed | line | refused => cases houtcome
    | reading next =>
      have hless : next.room < room := hroom ▸ room_lt_of_step_reading hstep
      obtain ⟨later, hlater⟩ := ih next.room hless (open_of_step_reading hopen hstep) rfl
      refine ⟨max soon later, fun time => ?_⟩
      have hsame : step reader (max soon later) progress = .reading next := by
        rcases step_of_le reader (Nat.le_max_left soon later) progress with hlate | hsame
        · rw [hstep] at hlate
          cases hlate
        · exact hsame.trans hstep
      rw [run_of_step_reading hsame, run_of_le (Nat.le_max_right soon later) (hlater later)]
      exact hlater time

end ProxyGate.Sniff
