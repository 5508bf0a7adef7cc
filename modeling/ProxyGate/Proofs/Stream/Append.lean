import ProxyGate.Proofs.Stream.Deadline
import ProxyGate.Proofs.Stream.Replay

/-!
# What comes later

A transport may be read while its peer is still sending.  A read that has what it needs goes the
same way whatever is sent later, and leaves it untouched: `Script.read_append` says so for scripts
and `Duplex.read_append` for transports.
-/

namespace ProxyGate.Stream

namespace Script

theorem bytes_append (front back : Script) : bytes (front ++ back) = front.bytes ++ back.bytes :=
  List.flatMap_append

theorem unread_append (bytes : Bytes) (rest later : Script) :
    unread bytes (rest ++ later) = unread bytes rest ++ later := by
  rw [unread, unread]
  split <;> rfl

/-- A read that is answered by a step of a script does not see what comes behind the script. -/
theorem read_append {script : Script} (h : script.isReady = true) (later : Script) (room : Nat) :
    (script ++ later).read room = (script.read room).map (· ++ later) := by
  induction script with
  | nil => cases h
  | cons step rest ih =>
    rw [List.cons_append]
    cases step with
    | data bytes => rw [read, read, unread_append, Pull.map]
    | delay milliseconds =>
      rw [read, read, ih h]
      cases read room rest <;> rfl
    | stall | finish | failure => rfl

theorem offersData_append {script : Script} (h : script.isReady = true) (later : Script) :
    (script ++ later).offersData = script.offersData := by
  induction script with
  | nil => cases h
  | cons step rest ih =>
    cases step with
    | delay milliseconds => exact ih h
    | data | stall | finish | failure => rfl

theorem isReady_of_isComplete {script : Script} (h : script.isComplete = true) :
    script.isReady = true := by
  obtain ⟨step, hmem, hending⟩ := List.any_eq_true.mp h
  refine List.any_eq_true.mpr ⟨step, hmem, ?_⟩
  cases step with
  | data | delay => cases hending
  | stall | finish | failure => rfl

/-- A read that gives bytes leaves the end of a script where it is. -/
theorem isComplete_of_read {script rest : Script} {room wait : Nat} {bytes : Bytes}
    (h : script.read room = .got wait bytes rest) (hne : bytes ≠ []) :
    rest.isComplete = script.isComplete := by
  induction script generalizing wait with
  | nil =>
    cases h
    exact absurd rfl hne
  | cons step tail ih =>
    cases step with
    | data given =>
      cases h
      rw [unread]
      split <;> rfl
    | delay milliseconds =>
      rw [read] at h
      cases hread : read room tail with
      | got wait bytes rest =>
        rw [hread] at h
        cases h
        exact ih hread
      | failed | never =>
        rw [hread] at h
        cases h
    | stall | failure => cases h
    | finish =>
      cases h
      exact absurd rfl hne

end Script

/-- A source of which reads leave something as it was. -/
def Keeps {σ α : Type} (reader : Reader σ) (f : σ → α) : Prop :=
  ∀ (room : Nat) (source : σ), match reader room source with
    | .got _ _ rest | .failed _ _ rest => f rest = f source
    | .never => True

namespace Duplex

/-- The transport of a peer that has sent this. -/
def ofScript (script : Script) : Duplex := { inlet := script }

/-- A transport whose peer sends more. -/
def append (duplex : Duplex) (later : Script) : Duplex :=
  { duplex with inlet := duplex.inlet ++ later }

theorem append_nil (duplex : Duplex) : duplex.append [] = duplex := by
  rw [append, List.append_nil]

theorem append_append (duplex : Duplex) (later last : Script) :
    (duplex.append later).append last = duplex.append (later ++ last) := by
  rw [append, append, append, List.append_assoc]

theorem push_eq_append (duplex : Duplex) (step : Step) : duplex.push step = duplex.append [step] :=
  rfl

/-- A read that has what it needs does not see what is sent later. -/
theorem read_append {duplex : Duplex} (h : duplex.inlet.isReady = true) (later : Script)
    (room : Nat) : read room (duplex.append later) = (read room duplex).map (·.append later) := by
  have hoffers := Script.offersData_append h later
  have hread := Script.read_append h later room
  rw [read, read, append]
  dsimp only
  rw [hread, hoffers]
  cases duplex.inlet.read room <;> rfl

/-- A read that gives bytes leaves the end of the data where it is. -/
theorem isComplete_of_read {duplex rest : Duplex} {room wait : Nat} {bytes : Bytes}
    (h : read room duplex = .got wait bytes rest) (hne : bytes ≠ []) :
    rest.inlet.isComplete = duplex.inlet.isComplete := by
  rw [read] at h
  cases hread : duplex.inlet.read room with
  | got wait bytes rest =>
    rw [hread] at h
    cases h
    exact Script.isComplete_of_read hread hne
  | failed | never =>
    rw [hread] at h
    cases h

theorem read_keeps_outlet : Keeps read (·.outlet) := by
  intro room duplex
  rw [read]
  cases duplex.inlet.read room <;> trivial

end Duplex

namespace Replay

/-- The same stream over another transport. -/
def map {σ τ : Type} (f : σ → τ) (stream : Replay σ) : Replay τ := ⟨stream.held, f stream.inner⟩

/-- What is sent later comes behind what a stream has. -/
theorem bytes_append (stream : Replay Duplex) (later : Script) :
    (stream.map (·.append later)).bytes = stream.bytes ++ later.bytes := by
  rw [bytes, bytes, map, Duplex.append, Script.bytes_append, List.append_assoc]

theorem map_append_append (stream : Replay Duplex) (later last : Script) :
    (stream.map (·.append later)).map (·.append last) = stream.map (·.append (later ++ last)) := by
  simp only [map, Duplex.append_append]

/-- One operation more goes on where those before it have come to. -/
theorem run_concat (stream : Replay Duplex) (operations : List Operation) (operation : Operation) :
    stream.run (operations ++ [operation]) =
        stream.run operations ++ [(stream.after operations).step operation] ∧
      stream.after (operations ++ [operation]) =
        ((stream.after operations).step operation).2 := by
  induction operations generalizing stream with
  | nil => exact ⟨rfl, rfl⟩
  | cons first rest ih =>
    obtain ⟨hrun, hafter⟩ := ih (stream.step first).2
    rw [List.cons_append, after_cons, after_cons]
    exact ⟨congrArg (stream.step first :: ·) hrun, hafter⟩

/-- A read that has what it needs does not see what is sent later. -/
theorem read_append {stream : Replay Duplex}
    (h : stream.held ≠ [] ∨ stream.inner.inlet.isReady = true) (later : Script) (room : Nat) :
    (stream.map (·.append later)).read Duplex.read room =
      (stream.read Duplex.read room).map (·.map (·.append later)) := by
  rw [read, read]
  by_cases hheld : stream.held = []
  · have hheld' : (stream.map (·.append later)).held = [] := hheld
    have hinner : (stream.map (·.append later)).inner = stream.inner.append later := rfl
    rw [if_pos hheld, if_pos hheld', hinner,
      Duplex.read_append (h.resolve_left (absurd hheld))]
    cases Duplex.read room stream.inner <;> rfl
  · have hheld' : (stream.map (·.append later)).held ≠ [] := hheld
    rw [if_neg hheld, if_neg hheld']
    rfl

/-- A read that gives bytes leaves the end of the data where it is. -/
theorem isComplete_of_read {stream rest : Replay Duplex} {room wait : Nat} {bytes : Bytes}
    (h : stream.read Duplex.read room = .got wait bytes rest) (hne : bytes ≠ []) :
    rest.inner.inlet.isComplete = stream.inner.inlet.isComplete := by
  rw [read] at h
  by_cases hheld : stream.held = []
  · rw [if_pos hheld] at h
    cases hread : Duplex.read room stream.inner with
    | got wait bytes rest =>
      rw [hread] at h
      cases h
      exact Duplex.isComplete_of_read hread hne
    | failed | never =>
      rw [hread] at h
      cases h
  · rw [if_neg hheld] at h
    cases h
    rfl

/-- Reading to an end that has come does not see what is sent later. -/
theorem drain_append {stream : Replay Duplex} (h : stream.inner.inlet.isComplete = true)
    (later : Script) (rooms : Nat → Nat) :
    (stream.map (·.append later)).drain rooms = ((stream.drain rooms).1, (stream.drain rooms).2.1,
      (stream.drain rooms).2.2.map (·.append later)) :=
  drain_map (fun stream => stream.inner.inlet.isComplete = true)
    (fun hcomplete => read_append (Or.inr (Script.isReady_of_isComplete hcomplete)) later)
    (fun hcomplete _ _ _ _ hread hne => (isComplete_of_read hread hne).trans hcomplete) rooms h

/-- An operation that has what it needs does not see what is sent later. -/
theorem step_append {stream : Replay Duplex} {operation : Operation}
    (h : stream.isReady operation = true) (later : Script) :
    (stream.map (·.append later)).step operation =
      ((stream.step operation).1, (stream.step operation).2.map (·.append later)) := by
  cases operation with
  | read room =>
    rw [step, step, read_append (by simpa [isReady] using h)]
    cases stream.read Duplex.read room <;> rfl
  | readToEnd =>
    rw [step, step, drain_append h]
  | write | writeVectored | isWriteVectored | flush | shutdown => rfl

end Replay

end ProxyGate.Stream
