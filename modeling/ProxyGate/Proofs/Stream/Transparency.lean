import ProxyGate.Proofs.Stream.Replay

/-!
# A replay is transparent

Behind the bytes that it holds, a stream is its transport: nothing that is asked of it shows that
there is a layer in between.  `run_transparent` says so for any operations in any order.

* Reads.  `ReadsOnce` is what one read does: it is answered by the held bytes alone or by the
  transport alone, and it waits or comes back with nothing only when the transport does.
* Two sides.  Reads do not see the write side (`step_withOutlet`) and leave it alone
  (`outlet_step`); everything else is left to the write side (`step_eq_answer`).
* Runs.  From these three, `run_reads` and `run_writes` go through the operations of a run and
  compare it with the run in which only those of one side are made.
* Calls.  `Outlet.run_calls` is what a write side is after a run, and `answersTo_calls` what is
  answered: every call reaches it as it was made, and is answered by how it was taken.
-/

namespace ProxyGate.Stream

/-! ## The transport by itself -/

namespace Pull

variable {σ τ : Type}

/-- Whether a read is not answered at once. -/
def isPending : Pull σ → Bool
  | .got wait _ _ | .failed wait _ _ => wait != 0
  | .never => true

@[simp] theorem isPending_map (f : σ → τ) (pull : Pull σ) :
    (pull.map f).isPending = pull.isPending := by
  cases pull <;> rfl

end Pull

namespace Operation

/-- Whether an operation reads. -/
def isRead : Operation → Bool
  | .read _ | .readToEnd => true
  | .write _ | .writeVectored _ | .isWriteVectored | .flush | .shutdown => false

/-- Whether an operation is for the write side. -/
def isWrite (operation : Operation) : Bool :=
  !operation.isRead

/-- The call that an operation is for a write side. -/
def call? : Operation → Option Call
  | .write bytes => some (.write bytes)
  | .writeVectored buffers => some (.writeVectored buffers)
  | .flush => some .flush
  | .shutdown => some .shutdown
  | .read _ | .readToEnd | .isWriteVectored => none

/-- Whether an operation is a call for the write side. -/
def isCall (operation : Operation) : Bool :=
  operation.call?.isSome

end Operation

/-- What a transport answers by itself to a read, and what it is then. -/
def Duplex.answer (duplex : Duplex) (room : Nat) : Answer × Duplex :=
  match duplex.read room with
  | .got _ bytes rest => (.data bytes, rest)
  | .failed _ reason rest => (.failed reason, rest)
  | .never => (.pending, duplex)

namespace Outlet

/-- How a write side takes the calls that are still to come, by their number. -/
def replyTo (outlet : Outlet) (turn : Nat) : Reply :=
  outlet.script.getD turn (.ready outlet.limit)

/-- What a write side answers by itself to a call, and what it is then. -/
def answer (outlet : Outlet) (call : Call) : Answer × Outlet :=
  (call.answer outlet.reply, (outlet.take call).2)

/-- What a write side answers by itself to an operation, and what it is then.  Reads are not its
concern. -/
def answer? (outlet : Outlet) : Operation → Option (Answer × Outlet)
  | .read _ | .readToEnd => none
  | .write bytes => some (outlet.answer (.write bytes))
  | .writeVectored buffers => some (outlet.answer (.writeVectored buffers))
  | .isWriteVectored => some (.vectored outlet.vectored, outlet)
  | .flush => some (outlet.answer .flush)
  | .shutdown => some (outlet.answer .shutdown)

/-- The operations of a list that concern a write side, asked of it alone: its answers, and what it
is in the end. -/
def run (outlet : Outlet) : List Operation → List Answer × Outlet
  | [] => ([], outlet)
  | operation :: rest =>
    match outlet.answer? operation with
    | none => outlet.run rest
    | some (answer, next) => (answer :: (next.run rest).1, (next.run rest).2)

/-- The first of the calls to come is the next. -/
theorem replyTo_zero (outlet : Outlet) : outlet.replyTo 0 = outlet.reply := by
  rw [replyTo, reply]
  cases outlet.script <;> rfl

/-- Behind a call, all that are to come have moved up by one. -/
theorem replyTo_take (outlet : Outlet) (call : Call) (turn : Nat) :
    (outlet.take call).2.replyTo turn = outlet.replyTo (turn + 1) := by
  rw [replyTo, replyTo, take]
  cases outlet.script <;> rfl

end Outlet

/-- A read of a transport does not see its write side. -/
theorem Duplex.read_withOutlet (duplex : Duplex) (outlet : Outlet) (room : Nat) :
    Duplex.read room { duplex with outlet } =
      (duplex.read room).map fun rest => { rest with outlet } := by
  rw [Duplex.read, Duplex.read]
  dsimp only
  cases duplex.inlet.read room <;> rfl

theorem Outlet.answer?_eq_none {operation : Operation} (h : operation.isRead = true)
    (outlet : Outlet) : outlet.answer? operation = none := by
  cases operation with
  | read | readToEnd => rfl
  | write | writeVectored | isWriteVectored | flush | shutdown => cases h

/-- Operations that are not for a write side do not matter to it. -/
theorem Outlet.run_filter (outlet : Outlet) (operations : List Operation) :
    outlet.run (operations.filter Operation.isWrite) = outlet.run operations := by
  induction operations generalizing outlet with
  | nil => rfl
  | cons operation rest ih =>
    cases operation with
    | read | readToEnd => exact ih outlet
    | write | writeVectored | isWriteVectored | flush | shutdown =>
      rw [List.filter_cons_of_pos rfl, run, run]
      simp only [answer?, ih]

/-- A write side changes only by the calls that are made: each takes up one step of its script and
is recorded as it was made, with how it was taken. -/
theorem Outlet.run_calls (outlet : Outlet) (operations : List Operation) :
    (outlet.run operations).2 =
      let made := operations.filterMap Operation.call?
      { outlet with
        script := outlet.script.drop made.length
        calls := outlet.calls ++ made.mapIdx fun turn call => (call, outlet.replyTo turn) } := by
  induction operations generalizing outlet with
  | nil => simp [run]
  | cons operation rest ih =>
    cases operation with
    | read | readToEnd | isWriteVectored => exact ih outlet
    | write | writeVectored | flush | shutdown =>
      rw [run, answer?, answer]
      simp only [ih, replyTo_take, List.filterMap_cons, Operation.call?, List.mapIdx_cons,
        replyTo_zero, List.length_cons]
      simp only [take, List.drop_tail, List.append_assoc, List.cons_append, List.nil_append]

namespace Replay

/-- The answers to those operations of a run that are picked. -/
def answersTo (pick : Operation → Bool) (stream : Replay Duplex) (operations : List Operation) :
    List Answer :=
  ((operations.zip (stream.run operations)).filter fun made => pick made.1).map fun made => made.2.1

/-- What one read of a stream does. -/
structure ReadsOnce (stream : Replay Duplex) (room : Nat) : Prop where
  /-- While there are held bytes, it gives the first of them and the transport is left alone. -/
  ofHeld : stream.held ≠ [] →
    stream.step (.read room) =
      (.data (stream.held.take room), ⟨stream.held.drop room, stream.inner⟩)
  /-- Without held bytes, it is the read of the transport. -/
  ofInner : stream.held = [] →
    stream.step (.read room) =
      ((stream.inner.answer room).1, ⟨[], (stream.inner.answer room).2⟩)
  /-- It gives nothing, fails or waits for ever only where the transport does and there are no held
  bytes. -/
  nothing : 0 < room → (stream.step (.read room)).1.bytes = [] →
    stream.held = [] ∧ (stream.step (.read room)).1 = (stream.inner.answer room).1
  /-- It waits only where the transport does and there are no held bytes. -/
  pending : (stream.read Duplex.read room).isPending = true →
    stream.held = [] ∧ (stream.inner.read room).isPending = true

/-! ## One read -/

theorem step_read_of_held (stream : Replay Duplex) (room : Nat) (h : stream.held ≠ []) :
    stream.step (.read room) =
      (.data (stream.held.take room), ⟨stream.held.drop room, stream.inner⟩) := by
  rw [step, read, if_neg h]

theorem step_read_of_inner (stream : Replay Duplex) (room : Nat) (h : stream.held = []) :
    stream.step (.read room) =
      ((stream.inner.answer room).1, ⟨[], (stream.inner.answer room).2⟩) := by
  obtain ⟨held, inner⟩ := stream
  subst h
  rw [step, read, if_pos rfl, Duplex.answer]
  cases inner.read room <;> rfl

theorem readsOnce (stream : Replay Duplex) (room : Nat) : stream.ReadsOnce room where
  ofHeld := stream.step_read_of_held room
  ofInner := stream.step_read_of_inner room
  nothing := by
    intro hroom hnone
    by_cases hheld : stream.held = []
    · exact ⟨hheld, by rw [stream.step_read_of_inner room hheld]⟩
    · rw [stream.step_read_of_held room hheld, Answer.bytes, List.take_eq_nil_iff] at hnone
      rcases hnone with hzero | hnil
      · omega
      · exact absurd hnil hheld
  pending := by
    intro hpending
    rw [read] at hpending
    by_cases hheld : stream.held = []
    · rw [if_pos hheld, Pull.isPending_map] at hpending
      exact ⟨hheld, hpending⟩
    · rw [if_neg hheld] at hpending
      cases hpending

/-! ## Two sides -/

/-- One read does not see the write side. -/
theorem read_withOutlet (stream : Replay Duplex) (outlet : Outlet) (room : Nat) :
    (stream.withOutlet outlet).read Duplex.read room =
      (stream.read Duplex.read room).map (·.withOutlet outlet) := by
  rw [read, read]
  by_cases hheld : stream.held = []
  · have hheld' : (stream.withOutlet outlet).held = [] := hheld
    rw [if_pos hheld, if_pos hheld', withOutlet, Duplex.read_withOutlet]
    cases stream.inner.read room <;> rfl
  · have hheld' : (stream.withOutlet outlet).held ≠ [] := hheld
    rw [if_neg hheld, if_neg hheld']
    rfl

/-- Neither does reading to the end. -/
theorem drain_withOutlet (stream : Replay Duplex) (outlet : Outlet) (rooms : Nat → Nat) :
    (stream.withOutlet outlet).drain rooms = ((stream.drain rooms).1, (stream.drain rooms).2.1,
      (stream.drain rooms).2.2.withOutlet outlet) :=
  drain_map (fun _ => True) (fun {stream} _ => stream.read_withOutlet outlet)
    (fun _ _ _ _ _ _ _ => trivial) rooms trivial

/-- Reads do not see the write side. -/
theorem step_withOutlet {operation : Operation} (h : operation.isRead = true)
    (stream : Replay Duplex) (outlet : Outlet) :
    (stream.withOutlet outlet).step operation =
      ((stream.step operation).1, (stream.step operation).2.withOutlet outlet) := by
  cases operation with
  | read room =>
    rw [step, step, read_withOutlet]
    cases stream.read Duplex.read room <;> rfl
  | readToEnd =>
    rw [step, step, drain_withOutlet]
  | write | writeVectored | isWriteVectored | flush | shutdown => cases h

/-- Reads leave the write side alone. -/
theorem outlet_step {operation : Operation} (h : operation.isRead = true)
    (stream : Replay Duplex) :
    (stream.step operation).2.inner.outlet = stream.inner.outlet := by
  have hsame := congrArg Prod.snd (step_withOutlet h stream stream.inner.outlet)
  rw [show stream.withOutlet stream.inner.outlet = stream from rfl] at hsame
  rw [hsame]
  rfl

/-- Every other operation is left to the write side. -/
theorem step_eq_answer {operation : Operation} (h : operation.isRead = false)
    (stream : Replay Duplex) :
    ∃ answer outlet, stream.inner.outlet.answer? operation = some (answer, outlet) ∧
      stream.step operation = (answer, stream.withOutlet outlet) := by
  cases operation with
  | read | readToEnd => cases h
  | write | writeVectored | isWriteVectored | flush | shutdown => exact ⟨_, _, rfl, rfl⟩

/-! ## Runs -/

theorem answersTo_cons (pick : Operation → Bool) (stream : Replay Duplex) (operation : Operation)
    (rest : List Operation) :
    stream.answersTo pick (operation :: rest) =
      (if pick operation then [(stream.step operation).1] else []) ++
        (stream.step operation).2.answersTo pick rest := by
  rw [answersTo, answersTo, run, List.zip_cons_cons, List.filter_cons]
  split <;> rfl

/-- Where all operations are picked, the answers are those of the run. -/
theorem answersTo_of_forall {pick : Operation → Bool} (stream : Replay Duplex)
    {operations : List Operation} (h : ∀ operation ∈ operations, pick operation = true) :
    stream.answersTo pick operations = (stream.run operations).map Prod.fst := by
  induction operations generalizing stream with
  | nil => rfl
  | cons operation rest ih =>
    rw [List.forall_mem_cons] at h
    rw [answersTo_cons, if_pos h.1, ih _ h.2]
    rfl

/-- The reads of a run are answered as if there were no others, whatever the write side, and leave
the same behind on their side. -/
theorem run_reads (stream : Replay Duplex) (outlet : Outlet) (operations : List Operation) :
    stream.answersTo Operation.isRead operations =
        ((stream.withOutlet outlet).run (operations.filter Operation.isRead)).map Prod.fst ∧
      (stream.withOutlet outlet).after (operations.filter Operation.isRead) =
        (stream.after operations).withOutlet outlet := by
  induction operations generalizing stream with
  | nil => exact ⟨rfl, rfl⟩
  | cons operation rest ih =>
    rw [answersTo_cons, after_cons]
    cases hread : operation.isRead with
    | true =>
      rw [List.filter_cons_of_pos hread, after_cons, run, step_withOutlet hread]
      exact ⟨congrArg ((stream.step operation).1 :: ·) (ih _).1, (ih _).2⟩
    | false =>
      obtain ⟨answer, next, _, hstep⟩ := step_eq_answer hread stream
      rw [List.filter_cons_of_neg (by rw [hread]; decide), hstep]
      exact ih (stream.withOutlet next)

/-- The other operations of a run are answered as by the write side alone. -/
theorem run_writes (stream : Replay Duplex) (operations : List Operation) :
    stream.inner.outlet.run operations =
      (stream.answersTo Operation.isWrite operations, (stream.after operations).inner.outlet) := by
  induction operations generalizing stream with
  | nil => rfl
  | cons operation rest ih =>
    rw [answersTo_cons, after_cons, Outlet.run]
    cases hread : operation.isRead with
    | true =>
      rw [Outlet.answer?_eq_none hread, if_neg (by simp [Operation.isWrite, hread]),
        List.nil_append, ← ih, outlet_step hread]
    | false =>
      obtain ⟨answer, next, hanswer, hstep⟩ := step_eq_answer hread stream
      rw [hanswer, hstep, if_pos (by simp [Operation.isWrite, hread])]
      dsimp only
      rw [show next = (stream.withOutlet next).inner.outlet from rfl, ih]
      rfl

/-- A call is passed on as it is. -/
theorem step_of_call? {operation : Operation} {call : Call} (h : operation.call? = some call)
    (stream : Replay Duplex) : stream.step operation = stream.call call := by
  cases operation with
  | read | readToEnd | isWriteVectored => cases h
  | write | writeVectored | flush | shutdown =>
    cases h
    rfl

/-- What is no call leaves the write side alone. -/
theorem outlet_step_of_call? {operation : Operation} (h : operation.call? = none)
    (stream : Replay Duplex) :
    (stream.step operation).2.inner.outlet = stream.inner.outlet := by
  cases operation with
  | read | readToEnd => exact outlet_step rfl stream
  | isWriteVectored => rfl
  | write | writeVectored | flush | shutdown => cases h

/-- Calls are answered by how the write side takes them, one after the other. -/
theorem answersTo_calls (stream : Replay Duplex) (operations : List Operation) :
    stream.answersTo Operation.isCall operations =
      (operations.filterMap Operation.call?).mapIdx fun turn call =>
        call.answer (stream.inner.outlet.replyTo turn) := by
  induction operations generalizing stream with
  | nil => rfl
  | cons operation rest ih =>
    rw [answersTo_cons, List.filterMap_cons, Operation.isCall, ih]
    cases hcall : operation.call? with
    | none => simp only [outlet_step_of_call? hcall, Option.isSome, Bool.false_eq_true, if_false,
        List.nil_append]
    | some call =>
      have hnext (turn : Nat) : (stream.call call).2.inner.outlet.replyTo turn =
          stream.inner.outlet.replyTo (turn + 1) := stream.inner.outlet.replyTo_take call turn
      simp only [step_of_call? hcall, hnext, Option.isSome, if_true, List.mapIdx_cons,
        Outlet.replyTo_zero]
      rfl

/-- **A replay is transparent**, whatever it holds, whatever its transport does, and whatever is
asked of it in whatever order.  With `reads` and `writes` for the operations of either side and
`now` for the stream after all of them:

* The next read is answered by the held bytes alone or by the transport alone, and waits or comes
  back with nothing only when the transport does.
* The bytes delivered, those held and those unread are together always the same.
* The answers to the reads are those of the run without the other operations, and so is what the
  read side is in the end.
* The answers to the other operations are those of the run without reads, and of the write side by
  itself.
* Each call is answered by how the write side takes it: carried out, failed or left to wait.
* The write side has recorded exactly the calls made, in order and with their data, each took up one
  step of its script, and it is otherwise as it was. -/
theorem run_transparent (stream : Replay Duplex) (operations : List Operation) :
    let reads := operations.filter Operation.isRead
    let writes := operations.filter Operation.isWrite
    let made := operations.filterMap Operation.call?
    let outlet := stream.inner.outlet
    let now := stream.after operations
    (∀ room, now.ReadsOnce room) ∧
      stream.delivered operations ++ now.held ++ now.inner.inlet.bytes =
        stream.held ++ stream.inner.inlet.bytes ∧
      (stream.answersTo Operation.isRead operations = (stream.run reads).map Prod.fst ∧
        now.withOutlet outlet = stream.after reads) ∧
      (stream.answersTo Operation.isWrite operations = (stream.run writes).map Prod.fst ∧
        stream.answersTo Operation.isWrite operations = (outlet.run writes).1 ∧
        now.inner.outlet = (stream.after writes).inner.outlet) ∧
      stream.answersTo Operation.isCall operations =
        (made.mapIdx fun turn call => call.answer (outlet.replyTo turn)) ∧
      now.inner.outlet = { outlet with
        script := outlet.script.drop made.length
        calls := outlet.calls ++ made.mapIdx fun turn call => (call, outlet.replyTo turn) } := by
  intro reads writes made outlet now
  have hreads := run_reads stream stream.inner.outlet operations
  have hwrites := run_writes stream operations
  have hpurged := run_writes stream writes
  rw [Outlet.run_filter, hwrites, answersTo_of_forall stream fun operation hmem =>
    (List.mem_filter.mp hmem).2, Prod.mk.injEq] at hpurged
  refine ⟨now.readsOnce, ?_, ⟨hreads.1, hreads.2.symm⟩, ⟨hpurged.1, ?_, hpurged.2⟩,
    stream.answersTo_calls operations, ?_⟩
  · rw [List.append_assoc]
    exact stream.run_conserves operations
  · rw [Outlet.run_filter, hwrites]
  · rw [← Outlet.run_calls, hwrites]

end Replay

end ProxyGate.Stream
