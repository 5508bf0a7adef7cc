import Mathlib.Data.List.Induction

/-!
# What a run shows

A run carries out requests one after the other and gives every answer with the state after it.
Whoever asks sees the requests and the answers alone: that is the `transcript`.  `lastState` is the
state that the run ends in.

`Stepwise` says of a run that it is made of single steps, and `Stepwise.induction` proves something
about the transcript and the last state of every run, one request after the other.
-/

namespace ProxyGate

variable {σ ρ α : Type}

/-- A list to whose end an element was added. -/
theorem getElem?_concat (list : List α) (last : α) (place : Nat) :
    (list ++ [last])[place]? = if place = list.length then some last else list[place]? := by
  rw [List.getElem?_append]
  split
  · rw [if_neg (by omega)]
  · split
    · simp [*]
    · rw [List.getElem?_eq_none (by simp; omega), List.getElem?_eq_none (by omega)]

/-- The state that a run ends in. -/
def lastState (start : σ) (answers : List (α × σ)) : σ :=
  (answers.map Prod.snd).getLastD start

/-- The requests of a run, each with its answer. -/
def transcript (requests : List ρ) (answers : List (α × σ)) : List (ρ × α) :=
  requests.zip (answers.map Prod.fst)

/-- A run is its steps in a row. -/
structure Stepwise (step : σ → ρ → α × σ) (run : σ → List ρ → List (α × σ)) : Prop where
  nil : ∀ state, run state [] = []
  cons : ∀ state request rest,
    run state (request :: rest) = step state request :: run (step state request).2 rest

theorem lastState_cons (start : σ) (answer : α × σ) (answers : List (α × σ)) :
    lastState start (answer :: answers) = lastState answer.2 answers :=
  List.getLastD_cons

theorem lastState_concat (start : σ) (answers : List (α × σ)) (answer : α × σ) :
    lastState start (answers ++ [answer]) = answer.2 := by
  simp [lastState]

namespace Stepwise

variable {step : σ → ρ → α × σ} {run : σ → List ρ → List (α × σ)}

theorem length_run (h : Stepwise step run) (start : σ) (requests : List ρ) :
    (run start requests).length = requests.length := by
  induction requests generalizing start with
  | nil => rw [h.nil, List.length_nil, List.length_nil]
  | cons request rest ih => rw [h.cons, List.length_cons, List.length_cons, ih]

/-- One run after another is a run. -/
theorem run_append (h : Stepwise step run) (start : σ) (front back : List ρ) :
    run start (front ++ back) =
      run start front ++ run (lastState start (run start front)) back := by
  induction front generalizing start with
  | nil => rw [h.nil]; rfl
  | cons request front ih =>
    rw [List.cons_append, h.cons, h.cons, ih, lastState_cons, List.cons_append]

theorem run_concat (h : Stepwise step run) (start : σ) (requests : List ρ) (request : ρ) :
    run start (requests ++ [request]) =
      run start requests ++ [step (lastState start (run start requests)) request] := by
  rw [h.run_append, h.cons, h.nil]

theorem transcript_concat (h : Stepwise step run) (start : σ) (requests : List ρ) (request : ρ) :
    transcript (requests ++ [request]) (run start (requests ++ [request])) =
      transcript requests (run start requests) ++
        [(request, (step (lastState start (run start requests)) request).1)] := by
  rw [h.run_concat, transcript, List.map_append, List.zip_append]
  · rfl
  · rw [List.length_map, h.length_run]

/-- What holds at the start and is kept by each request holds of every run. -/
theorem induction (h : Stepwise step run) {start : σ}
    {motive : List ρ → List (ρ × α) → σ → Prop} (hstart : motive [] [] start)
    (hstep : ∀ requests past state request, motive requests past state →
      motive (requests ++ [request]) (past ++ [(request, (step state request).1)])
        (step state request).2)
    (requests : List ρ) :
    motive requests (transcript requests (run start requests))
      (lastState start (run start requests)) := by
  induction requests using List.reverseRecOn with
  | nil =>
    rw [h.nil]
    exact hstart
  | append_singleton requests request ih =>
    rw [h.transcript_concat, h.run_concat, lastState_concat]
    exact hstep requests _ _ request ih

end Stepwise

end ProxyGate
