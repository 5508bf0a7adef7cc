import ProxyGate.Proofs.Sniff.Chunking

/-!
# The time limit of a search

One limit covers the whole search, and time passes only while a read waits.  `Decides` walks a
script with a clock beside it and stops at the first step that decides the search: the bytes that
have come do (`Decision`), or the data ends, or a read fails.

* `run_ends` says that a search ends at that moment, and with that decision, if it is within the
  limit, and otherwise when its time is up.
* `run_of_le` says that more time changes nothing about a search that has ended in time.
* `sniff_deadline` puts both together for transports.
-/

namespace ProxyGate.Sniff

open ProxyGate.Stream

variable {σ : Type}

/-! ## The moment of decision -/

/-- What bytes decide, whatever comes behind them. -/
inductive Decision (data : Bytes) : Except Failure Header → Prop where
  /-- They are not those of a header. -/
  | mismatch (deviates : Header.Deviates data) :
      Decision data (.error (.refused .badSignature))
  /-- They hold a line that fits, and the line says what it says. -/
  | line {length : Nat} (agrees : ¬Header.Deviates data) (first : data.FirstLine length)
      (fits : length ≤ Header.maxLength) :
      Decision data ((Header.parse (data.take length)).mapError .refused)
  /-- They fill the window without a line. -/
  | full (agrees : ¬Header.Deviates data)
      (none : ∀ length ≤ Header.maxLength, ¬data.FirstLine length)
      (long : Header.maxLength ≤ data.length) :
      Decision data (.error (.refused .tooLong))

/-- A script decides a search that has seen some bytes, this many milliseconds from now. -/
inductive Decides : Bytes → Script → Nat → Except Failure Header → Prop where
  /-- Time passes. -/
  | delay {seen : Bytes} {milliseconds time : Nat} {rest : Script}
      {decision : Except Failure Header} (later : Decides seen rest time decision) :
      Decides seen (.delay milliseconds :: rest) (milliseconds + time) decision
  /-- Bytes come that leave everything open. -/
  | more {seen bytes : Bytes} {time : Nat} {rest : Script} {decision : Except Failure Header}
      (hne : bytes ≠ []) (hopen : Open (seen ++ bytes))
      (later : Decides (seen ++ bytes) rest time decision) :
      Decides seen (.data bytes :: rest) time decision
  /-- Bytes come that decide. -/
  | bytes {seen bytes : Bytes} {rest : Script} {decision : Except Failure Header}
      (hne : bytes ≠ []) (now : Decision (seen ++ bytes) decision) :
      Decides seen (.data bytes :: rest) 0 decision
  /-- A read gives no bytes. -/
  | empty (seen : Bytes) (rest : Script) :
      Decides seen (.data [] :: rest) 0 (.error (.closed seen.length))
  /-- The data is closed. -/
  | finish (seen : Bytes) (rest : Script) :
      Decides seen (.finish :: rest) 0 (.error (.closed seen.length))
  /-- Nothing is left. -/
  | exhausted (seen : Bytes) : Decides seen [] 0 (.error (.closed seen.length))
  /-- A read fails. -/
  | failure (seen : Bytes) (reason : String) (rest : Script) :
      Decides seen (.failure reason :: rest) 0 (.error (.io reason))

/-- Bytes that leave everything open decide nothing. -/
theorem Open.not_decision {data : Bytes} (hopen : Open data) (decision : Except Failure Header) :
    ¬Decision data decision := by
  intro h
  cases h with
  | mismatch deviates => exact hopen.agrees deviates
  | line _ first _ => exact not_firstLine_of_endless hopen.endless _ first
  | full _ _ long => exact Nat.not_lt_of_le long hopen.short

theorem Decision.unique {data : Bytes} {decision other : Except Failure Header}
    (h : Decision data decision) (h' : Decision data other) : decision = other := by
  cases h with
  | mismatch deviates =>
    cases h' with
    | mismatch => rfl
    | line agrees => exact absurd deviates agrees
    | full agrees => exact absurd deviates agrees
  | line agrees first fits =>
    cases h' with
    | mismatch deviates => exact absurd deviates agrees
    | line _ first' => rw [first.unique first']
    | full _ none => exact absurd first (none _ fits)
  | full agrees none =>
    cases h' with
    | mismatch deviates => exact absurd deviates agrees
    | line _ first fits => exact absurd first (none _ fits)
    | full => rfl

/-- A script decides a search at one moment only, and in one way. -/
theorem Decides.unique {seen : Bytes} {script : Script} {time time' : Nat}
    {decision decision' : Except Failure Header} (h : Decides seen script time decision)
    (h' : Decides seen script time' decision') : time = time' ∧ decision = decision' := by
  induction h generalizing time' with
  | delay _ ih =>
    cases h' with
    | delay later =>
      obtain ⟨htime, hdecision⟩ := ih later
      exact ⟨by rw [htime], hdecision⟩
  | more hne hopen _ ih =>
    cases h' with
    | more _ _ later => exact ih later
    | bytes _ now => exact absurd now (hopen.not_decision _)
    | empty => exact absurd rfl hne
  | bytes hne now =>
    cases h' with
    | more _ hopen _ => exact absurd now (hopen.not_decision _)
    | bytes _ now' => exact ⟨rfl, now.unique now'⟩
    | empty => exact absurd rfl hne
  | empty =>
    cases h' with
    | more hne => exact absurd rfl hne
    | bytes hne => exact absurd rfl hne
    | empty => exact ⟨rfl, rfl⟩
  | finish => cases h'; exact ⟨rfl, rfl⟩
  | exhausted => cases h'; exact ⟨rfl, rfl⟩
  | failure => cases h'; exact ⟨rfl, rfl⟩

/-- A judgement that ends a search is a decision of the bytes that were there to read. -/
theorem decision_of_judged {window : Bytes} (hlength : window.length ≤ Header.maxLength)
    (unread : Bytes) :
    (∀ length, Judged window (.line length) → Decision (window ++ unread)
      ((Header.parse (window.take length)).mapError .refused)) ∧
    (∀ fault, Judged window (.refuse fault) →
      Decision (window ++ unread) (.error (.refused fault))) := by
  obtain ⟨hline, hrefuse⟩ := settles_of_judged 0 hlength unread .pending
  refine ⟨fun length hjudged => ?_, fun fault hjudged => ?_⟩
  · cases hline length hjudged with
    | line agrees first fits same =>
      rw [same]
      exact .line agrees first fits
  · cases hrefuse fault hjudged with
    | deviates h => exact .mismatch h
    | tooLong agrees none long => exact .full agrees none long

/-! ## The end of a search -/

/-- When a search ends under a limit, and with what, as the script it reads has it. -/
inductive Ends (limit elapsed : Nat) (seen : Bytes) (script : Script) :
    Nat → Except Failure (Option Header) → Prop where
  /-- The search is decided in time. -/
  | decided {time : Nat} {decision : Except Failure Header}
      (decides : Decides seen script time decision) (intime : elapsed + time ≤ limit) :
      Ends limit elapsed seen script (elapsed + time) (decision.map some)
  /-- The time is up before the search is decided. -/
  | expired (late : ∀ time decision, Decides seen script time decision → limit < elapsed + time) :
      Ends limit elapsed seen script limit (.error (.timeout limit))

theorem Ends.now {limit elapsed : Nat} {seen : Bytes} {script : Script}
    {decision : Except Failure Header} (decides : Decides seen script 0 decision)
    (htime : elapsed ≤ limit) : Ends limit elapsed seen script elapsed (decision.map some) :=
  .decided decides htime

theorem Ends.delay {limit elapsed milliseconds moment : Nat} {seen : Bytes} {rest : Script}
    {result : Except Failure (Option Header)}
    (h : Ends limit (elapsed + milliseconds) seen rest moment result) :
    Ends limit elapsed seen (.delay milliseconds :: rest) moment result := by
  cases h with
  | @decided time decision decides intime =>
    rw [Nat.add_assoc] at intime ⊢
    exact .decided (.delay decides) intime
  | expired late =>
    refine .expired fun time decision hdecides => ?_
    cases hdecides with
    | delay later =>
      rw [← Nat.add_assoc]
      exact late _ _ later

theorem Ends.more {limit elapsed moment : Nat} {seen bytes : Bytes} {rest : Script}
    {result : Except Failure (Option Header)} (hne : bytes ≠ []) (hopen : Open (seen ++ bytes))
    (h : Ends limit elapsed (seen ++ bytes) rest moment result) :
    Ends limit elapsed seen (.data bytes :: rest) moment result := by
  cases h with
  | decided decides intime => exact .decided (.more hne hopen decides) intime
  | expired late =>
    refine .expired fun time decision hdecides => ?_
    cases hdecides with
    | more _ _ later => exact late _ _ later
    | bytes _ now => exact absurd now (hopen.not_decision _)
    | empty => exact absurd rfl hne

/-- No search lasts longer than its limit. -/
theorem Ends.le {limit elapsed moment : Nat} {seen : Bytes} {script : Script}
    {result : Except Failure (Option Header)} (h : Ends limit elapsed seen script moment result) :
    moment ≤ limit := by
  cases h with
  | decided _ intime => exact intime
  | expired => exact Nat.le_refl _

/-- What is decided in time ends the search then. -/
theorem Ends.of_decides {limit elapsed moment time : Nat} {seen : Bytes} {script : Script}
    {result : Except Failure (Option Header)} {decision : Except Failure Header}
    (h : Ends limit elapsed seen script moment result)
    (decides : Decides seen script time decision) (intime : elapsed + time ≤ limit) :
    moment = elapsed + time ∧ result = decision.map some := by
  cases h with
  | decided decides' _ =>
    obtain ⟨rfl, rfl⟩ := decides'.unique decides
    exact ⟨rfl, rfl⟩
  | expired late => exact absurd intime (Nat.not_le_of_lt (late _ _ decides))

/-- Without a decision in time the limit ends the search. -/
theorem Ends.of_late {limit elapsed moment : Nat} {seen : Bytes} {script : Script}
    {result : Except Failure (Option Header)} (h : Ends limit elapsed seen script moment result)
    (late : ∀ time decision, Decides seen script time decision → limit < elapsed + time) :
    moment = limit ∧ result = .error (.timeout limit) := by
  cases h with
  | decided decides intime => exact absurd intime (Nat.not_le_of_lt (late _ _ decides))
  | expired => exact ⟨rfl, rfl⟩

/-! ## One read -/

/-- An answer that comes too late is none. -/
theorem step_of_late {reader : Reader σ} {limit : Nat} {progress : Progress σ}
    (hlate : ∀ wait, answerTime? (reader progress.room progress.source) = some wait →
      limit < progress.elapsed + wait) :
    step reader limit progress = progress.timedOut limit := by
  have hmove := move_step reader limit progress
  cases hread : reader progress.room progress.source with
  | never => simp only [step, hread]
  | failed wait reason rest | got wait bytes rest =>
    have hwait := hlate wait (by rw [hread]; rfl)
    simp only [step, hread]
    rw [if_neg (Nat.not_le_of_lt hwait)]

/-- An answer after a wait takes at least the wait. -/
theorem le_of_answerTime?_after {pull : Pull σ} {milliseconds wait : Nat}
    (h : answerTime? (pull.after milliseconds) = some wait) : milliseconds ≤ wait := by
  cases pull with
  | never => cases h
  | failed time reason rest | got time bytes rest =>
    cases h
    exact Nat.le_add_right _ _

/-- A read that comes after a wait goes the same way as the read that comes once the wait is over,
unless both come too late. -/
theorem step_of_after {reader : Reader σ} (limit : Nat) {milliseconds : Nat}
    {progress : Progress σ} {next : σ} (hafter : reader progress.room progress.source =
      (reader progress.room next).after milliseconds) :
    let waited := progress.skip milliseconds next
    step reader limit progress = step reader limit waited ∨
      step reader limit progress = progress.timedOut limit ∧
        step reader limit waited = waited.timedOut limit := by
  intro waited
  have hroom : waited.room = progress.room := rfl
  have hsource : waited.source = next := rfl
  have helapsed : waited.elapsed = progress.elapsed + milliseconds := rfl
  cases hread : reader progress.room next with
  | never =>
    refine .inr ⟨step_of_late ?_, step_of_late ?_⟩
    · simp [hafter, hread, Pull.after, answerTime?]
    · simp [hroom, hsource, hread, answerTime?]
  | failed wait reason rest | got wait bytes rest =>
    have hsum : progress.elapsed + (milliseconds + wait) = waited.elapsed + wait := by omega
    by_cases htime : waited.elapsed + wait ≤ limit
    · left
      simp only [step, hafter, hroom, hsource, hread, Pull.after, hsum, if_pos htime,
        Progress.receive, Progress.skip, Progress.push]
      rfl
    · refine .inr ⟨step_of_late ?_, step_of_late ?_⟩
      · simp only [hafter, hread, Pull.after, answerTime?, Option.some.injEq]
        omega
      · simp only [hroom, hsource, hread, answerTime?, Option.some.injEq]
        omega

/-- A read that is not too late is the same under a later limit. -/
theorem step_of_le (reader : Reader σ) {limit later : Nat} (hle : limit ≤ later)
    (progress : Progress σ) :
    step reader limit progress = progress.timedOut limit ∨
      step reader later progress = step reader limit progress := by
  cases hread : reader progress.room progress.source with
  | never => exact .inl (by simp only [step, hread])
  | failed wait reason rest | got wait bytes rest =>
    by_cases htime : progress.elapsed + wait ≤ limit
    · right
      simp only [step, hread]
      rw [if_pos htime, if_pos (Nat.le_trans htime hle)]
    · left
      simp only [step, hread]
      rw [if_neg htime]

/-! ## The whole search -/

theorem run_of_step_eq {reader : Reader σ} {limit : Nat} {progress other : Progress σ}
    (h : step reader limit progress = step reader limit other) :
    run reader limit progress = run reader limit other := by
  cases hstep : step reader limit other with
  | ended last outcome =>
    rw [run_of_step_ended hstep, run_of_step_ended (h.trans hstep)]
  | reading next =>
    rw [run_of_step_reading hstep, run_of_step_reading (h.trans hstep)]

/-- A search that has ended in time ends the same way under a later limit. -/
theorem run_of_le {reader : Reader σ} {limit later : Nat} (hle : limit ≤ later)
    {progress : Progress σ} (h : (run reader limit progress).2 ≠ .error (.timeout limit)) :
    run reader later progress = run reader limit progress := by
  induction progress using run.induct reader limit with
  | case1 progress last outcome hstep =>
    rw [run_of_step_ended hstep] at h ⊢
    rcases step_of_le reader hle progress with hlate | hsame
    · rw [hlate] at hstep
      cases hstep
      exact absurd rfl h
    · exact run_of_step_ended (hsame.trans hstep)
  | case2 progress next hstep ih =>
    rw [run_of_step_reading hstep] at h ⊢
    rcases step_of_le reader hle progress with hlate | hsame
    · rw [hlate] at hstep
      cases hstep
    · rw [run_of_step_reading (hsame.trans hstep)]
      exact ih h

/-- A read without bytes ends a search at once. -/
theorem run_of_empty {reader : Reader σ} {limit : Nat} {progress : Progress σ} {rest : σ}
    (htime : progress.elapsed ≤ limit)
    (hread : reader progress.room progress.source = .got 0 [] rest) :
    run reader limit progress =
      (progress.skip 0 rest, .error (.closed progress.window.length)) := by
  refine run_of_step_ended ?_
  rw [step_of_got htime (Nat.zero_le _) hread, Progress.receive, if_pos rfl]

/-- A read that fails ends a search at once. -/
theorem run_of_failed {reader : Reader σ} {limit : Nat} {progress : Progress σ} {reason : String}
    {rest : σ} (htime : progress.elapsed ≤ limit)
    (hread : reader progress.room progress.source = .failed 0 reason rest) :
    run reader limit progress = (progress.skip 0 rest, .error (.io reason)) := by
  refine run_of_step_ended ?_
  simp only [step, hread]
  exact if_pos htime

/-- A search that reads after a wait ends as the search that begins to read once the wait is
over. -/
theorem run_of_after {reader : Reader σ} (limit : Nat) {milliseconds : Nat}
    {progress : Progress σ} {next : σ} (hafter : reader progress.room progress.source =
      (reader progress.room next).after milliseconds) :
    let search := run reader limit progress
    let waited := run reader limit (progress.skip milliseconds next)
    search.1.elapsed = waited.1.elapsed ∧
      conclude search.1 search.2 = conclude waited.1 waited.2 := by
  intro search waited
  rcases step_of_after limit hafter with hsame | ⟨hlate, hlate'⟩
  · have hrun : search = waited := run_of_step_eq hsame
    rw [hrun]
    exact ⟨rfl, rfl⟩
  · have hsearch := run_of_step_ended hlate
    have hwaited := run_of_step_ended hlate'
    rw [show search = _ from hsearch, show waited = _ from hwaited]
    exact ⟨rfl, rfl⟩

theorem map_some_mapError {α ε δ : Type} (f : ε → δ) (result : Except ε α) :
    (result.mapError f).map some = (result.map some).mapError f := by
  cases result <;> rfl

/-- Bytes that a transport gives at once go into the window as a whole and leave it open, or they
decide the search. -/
theorem step_of_data {limit : Nat} {progress : Progress Duplex} {bytes : Bytes} {rest : Script}
    (hinlet : progress.source.inlet = .data bytes :: rest) (hne : bytes ≠ [])
    (hopen : Open progress.window) (htime : progress.elapsed ≤ limit) :
    (∃ next, step Duplex.read limit progress = .reading next ∧ next.source.inlet = rest ∧
      next.window = progress.window ++ bytes ∧ next.elapsed = progress.elapsed ∧
      Open next.window) ∨
    ∃ last outcome decision, step Duplex.read limit progress = .ended last outcome ∧
      last.elapsed = progress.elapsed ∧ Decision (progress.window ++ bytes) decision ∧
      (conclude last outcome).map Accepted.header = decision.map some := by
  have hmap := Duplex.map_inlet_read progress.room progress.source
  rw [hinlet, Script.read] at hmap
  obtain ⟨last, hread, hlast⟩ := Pull.eq_got_of_map hmap
  obtain ⟨hjudged, hlength⟩ := judged_take hopen bytes
  have hdecision := decision_of_judged hlength (bytes.drop progress.room)
  rw [List.append_assoc, List.take_append_drop] at hdecision
  have hsome : bytes.take progress.room ≠ [] := by
    simp only [ne_eq, List.take_eq_nil_iff, not_or]
    exact ⟨Nat.ne_of_gt hopen.room_pos, hne⟩
  have hstep := step_of_got htime (List.length_take_le _ _) hread
  rw [Progress.receive, if_neg hsome] at hstep
  cases hjudge : judge progress.window (bytes.take progress.room) with
  | more =>
    rw [hjudge] at hstep hjudged
    cases hjudged with
    | more hnext =>
      -- A window that is still open had room for all bytes.
      have hfits : bytes.length ≤ progress.room := by
        have hshort := hnext.short
        rw [List.length_append, List.length_take] at hshort
        simp only [Progress.room] at hshort ⊢
        omega
      rw [List.drop_of_length_le hfits] at hlast
      rw [List.take_of_length_le hfits] at hstep hnext
      exact .inl ⟨_, hstep, hlast, rfl, rfl, hnext⟩
  | line length =>
    rw [hjudge] at hstep hjudged
    refine .inr ⟨_, _, _, hstep, rfl, hdecision.1 length hjudged, ?_⟩
    rw [header_conclude_ok, map_some_mapError]
    rfl
  | refuse fault =>
    rw [hjudge] at hstep hjudged
    exact .inr ⟨_, _, _, hstep, rfl, hdecision.2 fault hjudged, rfl⟩

/-- A search of a script ends when the script decides it, if that is in time. -/
theorem run_ends {limit : Nat} (script : Script) {progress : Progress Duplex}
    (hinlet : progress.source.inlet = script) (hopen : Open progress.window)
    (htime : progress.elapsed ≤ limit) :
    let search := run Duplex.read limit progress
    Ends limit progress.elapsed progress.window script search.1.elapsed
      ((conclude search.1 search.2).map Accepted.header) := by
  intro search
  have hmap := Duplex.map_inlet_read progress.room progress.source
  rw [hinlet] at hmap
  induction script generalizing progress with
  | nil =>
    obtain ⟨rest, hread, _⟩ := Pull.eq_got_of_map hmap
    simp only [search, run_of_empty htime hread]
    exact .now (.exhausted _) htime
  | cons first rest ih =>
    cases first with
    | data bytes =>
      by_cases hne : bytes = []
      · subst hne
        obtain ⟨last, hread, _⟩ := Pull.eq_got_of_map hmap
        rw [List.take_nil] at hread
        simp only [search, run_of_empty htime hread]
        exact .now (.empty _ rest) htime
      · rcases step_of_data hinlet hne hopen htime with
          ⟨next, hstep, hrest, hwindow, helapsed, hnext⟩ |
            ⟨last, outcome, decision, hstep, helapsed, hdecision, hresult⟩
        · have hends := ih hrest hnext (helapsed ▸ htime)
            (hrest ▸ Duplex.map_inlet_read next.room next.source)
          simp only [search, run_of_step_reading hstep]
          rw [helapsed, hwindow] at hends
          exact hends.more hne (hwindow ▸ hnext)
        · simp only [search, run_of_step_ended hstep, hresult, helapsed]
          exact .now (.bytes hne hdecision) htime
    | delay milliseconds =>
      have hafter := Duplex.read_of_delay progress.room hinlet
      by_cases hwait : progress.elapsed + milliseconds ≤ limit
      · have hends := @ih (progress.skip milliseconds { progress.source with inlet := rest })
          rfl hopen hwait (Duplex.map_inlet_read ..)
        obtain ⟨helapsed, hresult⟩ := run_of_after limit hafter
        simp only [search, helapsed, hresult]
        exact hends.delay
      · have hstep : step Duplex.read limit progress = progress.timedOut limit := by
          refine step_of_late fun wait hanswer => ?_
          have hlong := le_of_answerTime?_after (hafter ▸ hanswer)
          omega
        simp only [search, run_of_step_ended hstep]
        refine .expired fun time decision hdecides => ?_
        cases hdecides with
        | delay _ => omega
    | stall =>
      have hnever := Pull.eq_never_of_map hmap
      have hstep : step Duplex.read limit progress = progress.timedOut limit :=
        step_of_late (by simp [hnever, answerTime?])
      simp only [search, run_of_step_ended hstep]
      refine .expired fun time decision hdecides => ?_
      cases hdecides
    | finish =>
      obtain ⟨last, hread, _⟩ := Pull.eq_got_of_map hmap
      simp only [search, run_of_empty htime hread]
      exact .now (.finish _ rest) htime
    | failure reason =>
      obtain ⟨last, hread, _⟩ := Pull.eq_failed_of_map hmap
      simp only [search, run_of_failed htime hread]
      exact .now (.failure _ reason rest) htime

/-! ## The deadline -/

/-- **The limit covers the whole header and only the header**, for every transport whose header is
demanded.

* A script decides the search at one moment at most, and in one way.
* If that moment is within the limit, the search ends then and with that decision.
* Otherwise, or if nothing decides it, the search ends exactly at the limit, for want of time.
* So it never lasts longer than the limit.
* A search that did not run out of time goes exactly the same way under every later limit: its
  result, its duration, its window, and what is left of the transport. -/
theorem sniff_deadline (duplex : Duplex) (limit : Nat) :
    let report := sniff Duplex.read limit duplex .required
    (∀ time time' decision decision', Decides [] duplex.inlet time decision →
      Decides [] duplex.inlet time' decision' → time = time' ∧ decision = decision') ∧
    (∀ time decision, Decides [] duplex.inlet time decision → time ≤ limit →
      report.progress.elapsed = time ∧
        report.result.map Accepted.header = decision.map some) ∧
    ((∀ time decision, Decides [] duplex.inlet time decision → limit < time) →
      report.progress.elapsed = limit ∧ report.result = .error (.timeout limit)) ∧
    report.progress.elapsed ≤ limit ∧
    (∀ later, limit ≤ later → report.result ≠ .error (.timeout limit) →
      sniff Duplex.read later duplex .required = report) := by
  intro report
  have hends : Ends limit 0 [] duplex.inlet report.progress.elapsed
      (report.result.map Accepted.header) :=
    @run_ends limit duplex.inlet (.start duplex) rfl open_nil (Nat.zero_le limit)
  refine ⟨fun _ _ _ _ => Decides.unique, fun time decision hdecides htime => ?_, fun hlate => ?_,
    hends.le, fun later hle hresult => ?_⟩
  · rw [← Nat.zero_add time] at htime ⊢
    exact hends.of_decides hdecides htime
  · obtain ⟨helapsed, hresult⟩ := hends.of_late fun time decision hdecides => by
      rw [Nat.zero_add]
      exact hlate time decision hdecides
    refine ⟨helapsed, ?_⟩
    cases hreport : report.result with
    | ok accepted =>
      rw [hreport] at hresult
      cases hresult
    | error failure =>
      rw [hreport] at hresult
      cases hresult
      rfl
  · have houtcome : (run Duplex.read limit (.start duplex)).2 ≠ .error (.timeout limit) := by
      intro houtcome
      exact hresult (congrArg (conclude (run Duplex.read limit (.start duplex)).1) houtcome)
    exact congrArg Report.ofSearch (run_of_le hle houtcome)

/-- A transport that drips a header in two pieces, and a failure behind it. -/
def dripped : Duplex where
  inlet := [.delay 3, .data (Bytes.ofText "PROXY UNKNOWN"), .delay 4,
    .data (Bytes.ofText " a b 1 2\r\nGET"), .delay 1, .failure "reset"]

/-- Seven milliseconds are just enough for the second piece, and a hundred are as good; six and none
at all are not. -/
theorem sniff_deadline_dripped :
    let report := sniff Duplex.read 7 dripped .required
    report.progress.elapsed = 7 ∧
      report.result.map Accepted.header =
        .ok (some ⟨.unknown, ⟨.token "a", 1⟩, ⟨.token "b", 2⟩⟩) ∧
      sniff Duplex.read 100 dripped .required = report ∧
      ∀ limit < 7, (sniff Duplex.read limit dripped .required).progress.elapsed = limit ∧
        (sniff Duplex.read limit dripped .required).result = .error (.timeout limit) := by
  intro report
  have hopen : Open ([] ++ Bytes.ofText "PROXY UNKNOWN") := by
    refine ⟨?_, ?_, by decide⟩
    · rw [← Header.signatureMismatch_iff]
      decide
    · rw [← Bytes.crlfAt?_eq_none_iff]
      decide
  have hline : Bytes.FirstLine
      ([] ++ Bytes.ofText "PROXY UNKNOWN" ++ Bytes.ofText " a b 1 2\r\nGET") 23 :=
    Bytes.firstLine_iff_crlfAt?.mpr ⟨21, by decide, rfl⟩
  have hagrees : ¬Header.Deviates
      ([] ++ Bytes.ofText "PROXY UNKNOWN" ++ Bytes.ofText " a b 1 2\r\nGET") := by
    rw [← Header.signatureMismatch_iff]
    decide
  have hdecides : Decides [] dripped.inlet 7
      (.ok ⟨.unknown, ⟨.token "a", 1⟩, ⟨.token "b", 2⟩⟩) :=
    .delay (.more (by decide) hopen (.delay (.bytes (by decide)
      (.line hagrees hline (by decide)))))
  obtain ⟨_, hintime, _, _, hlonger⟩ := sniff_deadline dripped 7
  obtain ⟨helapsed, hresult⟩ := hintime 7 _ hdecides (by decide)
  refine ⟨helapsed, hresult, hlonger 100 (by decide) fun htimeout => ?_, fun limit hlimit => ?_⟩
  · rw [htimeout] at hresult
    cases hresult
  · obtain ⟨honce, _, hlate, _⟩ := sniff_deadline dripped limit
    refine hlate fun time decision hother => ?_
    obtain ⟨rfl, _⟩ := honce _ _ _ _ hdecides hother
    exact hlimit

end ProxyGate.Sniff
