import ProxyGate.Proofs.Sniff.Agreement
import ProxyGate.Proofs.Stream.Append

/-!
# A search of what has come so far

A connection may be read in search of its header while its peer is still sending.  `Reaches` says
that such a search stands where a search of the whole connection comes by, whatever else is sent.
`Reaches.ended` says that its end is the end of that search, so nothing depends on when the reads
happen, as long as each has something to read.

`behind_of_accepted` is what an accepted connection has: the bytes that were taken off, and a stream
that goes on behind them.
-/

namespace ProxyGate.Sniff

open ProxyGate.Stream

variable {σ τ : Type}

/-! ## Other sources -/

/-- The same search of another source. -/
def Progress.map (f : σ → τ) (progress : Progress σ) : Progress τ :=
  ⟨progress.window, progress.elapsed, progress.reads, f progress.source⟩

/-- The same status with another source. -/
def Status.map (f : σ → τ) : Status σ → Status τ
  | .reading progress => .reading (progress.map f)
  | .ended progress outcome => .ended (progress.map f) outcome

/-- The same connection over another source. -/
def Accepted.map (f : σ → τ) (accepted : Accepted σ) : Accepted τ :=
  ⟨accepted.header, accepted.stream.map f⟩

theorem receive_map (f : σ → τ) (progress : Progress σ) (wait : Nat) (fresh : Bytes) (rest : σ) :
    (progress.map f).receive wait fresh (f rest) = (progress.receive wait fresh rest).map f := by
  rw [Progress.receive, Progress.receive]
  split
  · rfl
  · have hwindow : (progress.map f).window = progress.window := rfl
    rw [hwindow]
    cases judge progress.window fresh <;> rfl

/-- A read that is answered in the same way brings a search to the same. -/
theorem step_map {reader : Reader σ} {reader' : Reader τ} {f : σ → τ} (limit : Nat)
    {progress : Progress σ}
    (h : reader' progress.room (f progress.source) = (reader progress.room progress.source).map f) :
    step reader' limit (progress.map f) = (step reader limit progress).map f := by
  have hread : reader' (progress.map f).room (progress.map f).source =
      (reader progress.room progress.source).map f := h
  rw [step, step, hread]
  have helapsed : (progress.map f).elapsed = progress.elapsed := rfl
  have hroom : (progress.map f).room = progress.room := rfl
  cases reader progress.room progress.source with
  | never => rfl
  | failed wait reason rest =>
    dsimp only [Pull.map]
    rw [helapsed]
    split <;> rfl
  | got wait bytes rest =>
    dsimp only [Pull.map]
    rw [helapsed, hroom, receive_map]
    split <;> rfl

theorem conclude_map (f : σ → τ) (progress : Progress σ) (outcome : Except Failure Nat) :
    conclude (progress.map f) outcome = (conclude progress outcome).map (Accepted.map f) := by
  cases outcome with
  | error failure => rfl
  | ok length =>
    have hwindow : (progress.map f).window = progress.window := rfl
    rw [conclude, conclude, hwindow]
    cases Header.parse (progress.window.take length) <;> rfl

/-- The search of a status. -/
def Status.progress : Status σ → Progress σ
  | .reading progress | .ended progress _ => progress

/-- What reads leave as it was is left so by a search. -/
theorem step_keeps {α : Type} {reader : Reader σ} {f : σ → α} (h : Keeps reader f) (limit : Nat)
    (progress : Progress σ) :
    f (step reader limit progress).progress.source = f progress.source := by
  have hread := h progress.room progress.source
  have hmove := move_step reader limit progress
  generalize step reader limit progress = status at hmove ⊢
  cases hmove with
  | timedOut => rfl
  | failed hgot | closed hgot | more hgot | line hgot | refused hgot =>
    rw [hgot] at hread
    exact hread

/-! ## Searches that are under way -/

/-- A search stands where a search of the whole connection comes by, whatever else is sent. -/
def Reaches (limit : Nat) (script : Script) (progress : Progress Duplex) : Prop :=
  ∀ later, run Duplex.read limit (.start (.ofScript (script ++ later))) =
    run Duplex.read limit (progress.map (·.append later))

theorem reaches_start (limit : Nat) (script : Script) :
    Reaches limit script (.start (.ofScript script)) := fun _ => rfl

variable {limit : Nat} {script : Script} {progress next last : Progress Duplex}
  {outcome : Except Failure Nat}

/-- What is sent meanwhile does not bring a search off its way. -/
theorem Reaches.push (h : Reaches limit script progress) (step : Step) :
    Reaches limit (script ++ [step]) (progress.map (·.push step)) := by
  intro later
  rw [List.append_assoc, h ([step] ++ later)]
  simp only [Progress.map, Duplex.push_eq_append, Duplex.append_append]

theorem step_append (hready : progress.source.inlet.isReady = true) (later : Script) :
    step Duplex.read limit (progress.map (·.append later)) =
      (step Duplex.read limit progress).map (·.append later) :=
  step_map limit (Duplex.read_append hready later progress.room)

theorem Reaches.reading (h : Reaches limit script progress)
    (hready : progress.source.inlet.isReady = true)
    (hstep : step Duplex.read limit progress = .reading next) : Reaches limit script next := by
  intro later
  rw [h later]
  refine run_of_step_reading ?_
  rw [step_append hready later, hstep]
  rfl

/-- A search that ends has come to the end of the whole search. -/
theorem Reaches.ended (h : Reaches limit script progress)
    (hready : progress.source.inlet.isReady = true)
    (hstep : step Duplex.read limit progress = .ended last outcome) (later : Script) :
    run Duplex.read limit (.start (.ofScript (script ++ later))) =
      (last.map (·.append later), outcome) := by
  rw [h later]
  refine run_of_step_ended ?_
  rw [step_append hready later, hstep]
  rfl

/-! ## What comes of it -/

/-- A connection of which this has been sent comes to this result, whatever else is sent. -/
def ComesTo (limit : Nat) (policy : Policy) (script : Script)
    (result : Except Failure (Accepted Duplex)) : Prop :=
  ∀ later, (sniff Duplex.read limit (.ofScript (script ++ later)) policy).result =
    result.map (Accepted.map (·.append later))

theorem comesTo_of_ended (h : Reaches limit script progress)
    (hready : progress.source.inlet.isReady = true)
    (hstep : step Duplex.read limit progress = .ended last outcome) :
    ComesTo limit .required script (conclude last outcome) := by
  intro later
  rw [sniff, h.ended hready hstep later, Report.ofSearch, conclude_map]

theorem comesTo_disabled (limit : Nat) (script : Script) :
    ComesTo limit .disabled script (.ok ⟨none, .direct (.ofScript script)⟩) := fun _ => rfl

variable {policy : Policy} {accepted : Accepted Duplex} {failure : Failure}

/-- A rejection stands, whatever is sent later. -/
theorem ComesTo.error_append (h : ComesTo limit policy script (.error failure)) (later : Script) :
    ComesTo limit policy (script ++ later) (.error failure) := by
  intro last
  rw [List.append_assoc]
  exact h (later ++ last)

/-- What a connection comes to is what it comes to now. -/
theorem ComesTo.now {result : Except Failure (Accepted Duplex)}
    (h : ComesTo limit policy script result) :
    (sniff Duplex.read limit (.ofScript script) policy).result = result := by
  have hnow := h []
  rw [List.append_nil] at hnow
  rw [hnow]
  cases result with
  | error failure => rfl
  | ok accepted => simp only [Except.map, Accepted.map, Replay.map, Duplex.append_nil]

/-- The bytes that a policy takes off the front of a connection, with the header that they say. -/
inductive TakesOff (limit : Nat) (script : Script) : Policy → Bytes → Option Header → Prop where
  | disabled : TakesOff limit script .disabled [] none
  | required {line : Bytes} {header : Header} (opens : line <+: script.contentBy limit)
      (parsed : Header.parse line = .ok header) :
      TakesOff limit script .required line (some header)

theorem TakesOff.append {front : Bytes} {header : Option Header}
    (h : TakesOff limit script policy front header) (since : Script) :
    TakesOff limit (script ++ since) policy front header := by
  cases h with
  | disabled => exact .disabled
  | required opens parsed =>
    exact .required (opens.trans (Script.contentBy_prefix_append limit script since)) parsed

theorem TakesOff.of_required {front : Bytes} {header : Option Header}
    (h : TakesOff limit script .required front header) :
    ∃ found, header = some found ∧ front <+: script.contentBy limit ∧
      Header.parse front = .ok found := by
  cases h with
  | required opens parsed => exact ⟨_, rfl, opens, parsed⟩

theorem TakesOff.of_disabled {front : Bytes} {header : Option Header}
    (h : TakesOff limit script .disabled front header) : front = [] ∧ header = none := by
  cases h with
  | disabled => exact ⟨rfl, rfl⟩

/-- An accepted connection goes on behind what was taken off it. -/
theorem behind_of_accepted
    (h : (sniff Duplex.read limit (.ofScript script) policy).result = .ok accepted) :
    ∃ front, TakesOff limit script policy front accepted.header ∧
      front ++ accepted.stream.bytes = script.bytes := by
  have hbytes := Duplex.conserves_read.yields
  obtain ⟨read, length, htakes, hheld, hunread⟩ := held_of_accepted ⟨_, hbytes⟩ h
  have hall : script.bytes = read ++ accepted.stream.inner.inlet.bytes := hunread _ hbytes
  have hbehind : read.take length ++ accepted.stream.bytes = script.bytes := by
    rw [Replay.bytes, hheld, ← List.append_assoc, List.take_append_drop, hall]
  refine ⟨read.take length, ?_, hbehind⟩
  cases policy with
  | disabled =>
    generalize accepted.header = header at htakes ⊢
    cases htakes
    exact .disabled
  | required =>
    generalize hheader : accepted.header = header at htakes
    cases htakes with
    | @required _ header first parsed =>
      obtain ⟨line, hopens, hparse⟩ : Header.Opens (script.contentBy limit) header :=
        (header_sniff_required_iff (.ofScript script) limit header).mp
          (by rw [h, Except.map, hheader])
      -- The line that came in time and the one that was taken off open the same bytes.
      have hline : line <+: script.bytes :=
        (hopens.trans (script.contentBy_prefix_content limit)).trans script.content_prefix_bytes
      have hsame : line = read.take length :=
        Header.eq_of_prefix_of_parse hline ⟨_, hbehind⟩ hparse parsed
      rw [← hsame]
      exact .required hopens hparse

end ProxyGate.Sniff
