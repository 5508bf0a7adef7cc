import ProxyGate.Stream.Replay
import ProxyGate.Proofs.Stream.Feed

/-!
# Replaying loses nothing

The bytes that a stream still has to give are those it holds, followed by those of its transport.

* `Feed.replay` carries the promise of a source over from the transport.
* `step_conserves` says that an operation hands out bytes from the front and keeps all others, and
  `run_conserves` that operations in a row do.
* `drain_eq` says what reading to the end gives: into buffers of any sizes, all that the stream has to
  give, and then the end of its transport's data.  `exists_reads_eq_drain` finds the single reads that
  do the same, and `givesToEnd` puts both together.
-/

namespace ProxyGate.Stream

/-- The bytes that come with an answer. -/
def Answer.bytes : Answer → Bytes
  | .data bytes | .drained bytes _ => bytes
  | .failed _ | .pending | .wrote _ | .vectored _ | .done => []

/-- No bytes come with the answer to a call. -/
@[simp] theorem Call.bytes_answer (call : Call) (reply : Reply) : (call.answer reply).bytes = [] := by
  cases reply with
  | ready => cases call <;> rfl
  | failed | pending => rfl

/-- The answer to a read that finds the end of the data. -/
def Answer.ofEnding : Script.Ending → Answer
  | .finished => .data []
  | .failed reason => .failed reason
  | .pending => .pending

/-- Reads into one buffer after the other, of these sizes. -/
def Operation.reads (rooms : Nat → Nat) (count : Nat) : List Operation :=
  (List.range count).map fun turn => .read (rooms turn)

theorem Operation.reads_succ (rooms : Nat → Nat) (count : Nat) :
    Operation.reads rooms (count + 1) =
      .read (rooms 0) :: Operation.reads (fun turn => rooms (turn + 1)) count := by
  rw [reads, reads, List.range_succ_eq_map, List.map_cons, List.map_map]
  rfl

namespace Replay

/-- The bytes that a stream has to give before the end of its data. -/
def content (stream : Replay Duplex) : Bytes := stream.held ++ stream.inner.inlet.content

/-- The bytes that operations hand out. -/
def delivered (stream : Replay Duplex) (operations : List Operation) : Bytes :=
  (stream.run operations).flatMap (·.1.bytes)

/-- The stream after operations. -/
def after (stream : Replay Duplex) (operations : List Operation) : Replay Duplex :=
  ((stream.run operations).map Prod.snd).getLastD stream

theorem delivered_cons (stream : Replay Duplex) (operation : Operation) (rest : List Operation) :
    stream.delivered (operation :: rest) =
      (stream.step operation).1.bytes ++ (stream.step operation).2.delivered rest := rfl

theorem after_cons (stream : Replay Duplex) (operation : Operation) (rest : List Operation) :
    stream.after (operation :: rest) = (stream.step operation).2.after rest :=
  List.getLastD_cons

end Replay

/-! ## The promise of a stream -/

/-- How data has ended, by the answer to a read that gave none of it. -/
def Pull.ending {σ : Type} : Pull σ → Script.Ending
  | .got _ _ _ => .finished
  | .failed _ reason _ => .failed reason
  | .never => .pending

theorem Pull.ending_answer {σ : Type} (ending : Script.Ending) (wait : Nat) (rest : σ) :
    (ending.answer wait rest).ending = ending := by
  cases ending <;> rfl

variable {σ : Type} {reader : Reader σ} {content : σ → Bytes} {ending : σ → Script.Ending}
  {arrival : σ → Nat}

/-- A replay gives the bytes that it holds before those of its transport. -/
theorem Feed.replay (h : Feed reader content ending arrival) :
    Feed (Replay.read reader) (fun stream => stream.held ++ content stream.inner)
      (fun stream => ending stream.inner) (fun stream => arrival stream.inner) where
  ends := by
    intro room stream hnone
    obtain ⟨hheld, hcontent⟩ := List.append_eq_nil_iff.mp hnone
    obtain ⟨rest, hread⟩ := h.ends room stream.inner hcontent
    rw [Replay.read, if_pos hheld, hread]
    refine ⟨Replay.direct rest, ?_⟩
    cases ending stream.inner <;> rfl
  gives := by
    intro room stream hroom hsome
    rw [Replay.read]
    by_cases hheld : stream.held = []
    · rw [hheld, List.nil_append] at hsome
      obtain ⟨wait, bytes, rest, hread, hrest⟩ := h.gives room stream.inner hroom hsome
      rw [if_pos hheld, hread, hheld]
      exact ⟨wait, bytes, Replay.direct rest, rfl, hrest⟩
    · rw [if_neg hheld]
      refine ⟨0, _, _, rfl, ?_, List.length_take_le _ _, ?_, rfl, (Nat.zero_add _).symm⟩
      · simp only [ne_eq, List.take_eq_nil_iff, not_or]
        exact ⟨Nat.ne_of_gt hroom, hheld⟩
      · rw [← List.append_assoc, List.take_append_drop]

/-- A read into a buffer with room that gives no bytes is answered by the end. -/
theorem Feed.ended (h : Feed reader content ending arrival) {room : Nat} {source : σ}
    {pull : Pull σ} (hroom : 0 < room) (hread : reader room source = pull)
    (hnone : ∀ wait bytes rest, pull = .got wait bytes rest → bytes = []) :
    content source = [] ∧ ending source = pull.ending := by
  by_cases hcontent : content source = []
  · obtain ⟨rest, hanswer⟩ := h.ends room source hcontent
    refine ⟨hcontent, ?_⟩
    rw [← hread, hanswer, Pull.ending_answer]
  · obtain ⟨wait, bytes, rest, hgot, hsome, _⟩ := h.gives room source hroom hcontent
    exact absurd (hnone wait bytes rest (hread.symm.trans hgot)) hsome

/-- A read that gives bytes leaves the others, and the end. -/
theorem Feed.given (h : Feed reader content ending arrival) {room wait : Nat} {source rest : σ}
    {bytes : Bytes} (hroom : 0 < room) (hread : reader room source = .got wait bytes rest)
    (hsome : bytes ≠ []) : content source = bytes ++ content rest ∧ ending rest = ending source := by
  have hcontent : content source ≠ [] := by
    intro hnone
    rw [(h.yields hroom hread hsome).2, List.append_eq_nil_iff] at hnone
    exact hsome hnone.1
  obtain ⟨_, _, _, hgot, _, _, hbytes, hending, _⟩ := h.gives room source hroom hcontent
  rw [hread] at hgot
  cases hgot
  exact ⟨hbytes, hending⟩

namespace Replay

/-! ## Reading to the end -/

/-- Reading to the end hands out bytes from the front and keeps all others. -/
theorem drain_conserves (rooms : Nat → Nat) (stream : Replay Duplex) :
    (stream.drain rooms).1 ++ (stream.drain rooms).2.2.bytes = stream.bytes := by
  fun_induction drain rooms stream with
  | case1 rooms stream wait rest hread =>
    have hconserved := conserves_read (rooms 0) stream
    rw [hread] at hconserved
    exact hconserved.2.symm
  | case2 rooms stream wait bytes rest hread hsome more ending last hdrain ih =>
    have hconserved := conserves_read (rooms 0) stream
    rw [hread] at hconserved
    rw [hdrain] at ih
    rw [hconserved.2, ← ih, List.append_assoc]
  | case3 rooms stream wait reason rest hread =>
    have hconserved := conserves_read (rooms 0) stream
    rw [hread] at hconserved
    exact hconserved.symm
  | case4 => rfl

/-- Reading to the end gives all that a stream has to give, whatever the buffers, and stops as the
data of the transport does. -/
theorem drain_eq {rooms : Nat → Nat} (hrooms : ∀ turn, 0 < rooms turn) (stream : Replay Duplex) :
    (stream.drain rooms).1 = stream.content ∧
      (stream.drain rooms).2.1 = stream.inner.inlet.ending := by
  have hfeed := Duplex.feed_read.replay
  fun_induction drain rooms stream with
  | case1 rooms stream wait rest hread =>
    obtain ⟨hcontent, hending⟩ := hfeed.ended (hrooms 0) hread fun _ _ _ hgot => by
      cases hgot
      rfl
    exact ⟨hcontent.symm, hending.symm⟩
  | case2 rooms stream wait bytes rest hread hsome more ending last hdrain ih =>
    obtain ⟨hcontent, hending⟩ := hfeed.given (hrooms 0) hread hsome
    obtain ⟨hmore, hlast⟩ := ih fun turn => hrooms (turn + 1)
    rw [hdrain] at hmore hlast
    exact ⟨(congrArg (bytes ++ ·) hmore).trans hcontent.symm, hlast.trans hending⟩
  | case3 rooms stream wait reason rest hread =>
    obtain ⟨hcontent, hending⟩ := hfeed.ended (hrooms 0) hread nofun
    exact ⟨hcontent.symm, hending.symm⟩
  | case4 rooms stream hread =>
    obtain ⟨hcontent, hending⟩ := hfeed.ended (hrooms 0) hread nofun
    exact ⟨hcontent.symm, hending.symm⟩

/-- Reading to the end is one read, and what is left after it read to the end. -/
theorem drain_step (rooms : Nat → Nat) (stream : Replay Duplex) :
    stream.drain rooms = match stream.read Duplex.read (rooms 0) with
      | .got _ bytes rest =>
        if bytes = [] then ([], .finished, rest)
        else
          let (more, ending, last) := rest.drain fun turn => rooms (turn + 1)
          (bytes ++ more, ending, last)
      | .failed _ reason rest => ([], .failed reason, rest)
      | .never => ([], .pending, stream) := by
  rw [drain]
  cases stream.read Duplex.read (rooms 0) <;> simp only [dite_eq_ite]

/-- What a change of a stream does to its reads, it does to reading to the end; the change may be one
for streams that have what they need, and reads must leave them so. -/
theorem drain_map {change : Replay Duplex → Replay Duplex} (has : Replay Duplex → Prop)
    (hread : ∀ {stream}, has stream → ∀ room,
      (change stream).read Duplex.read room = (stream.read Duplex.read room).map change)
    (hhas : ∀ {stream}, has stream → ∀ {room wait bytes rest},
      stream.read Duplex.read room = .got wait bytes rest → bytes ≠ [] → has rest)
    (rooms : Nat → Nat) {stream : Replay Duplex} (h : has stream) :
    (change stream).drain rooms = ((stream.drain rooms).1, (stream.drain rooms).2.1,
      change (stream.drain rooms).2.2) := by
  fun_induction drain rooms stream with
  | case1 rooms stream wait rest hgot =>
    rw [drain_step, hread h, hgot, Pull.map]
    exact if_pos rfl
  | case2 rooms stream wait bytes rest hgot hsome more ending last hdrain ih =>
    rw [drain_step, hread h, hgot, Pull.map]
    simp only [if_neg hsome, ih (hhas h hgot hsome), hdrain]
  | case3 rooms stream wait reason rest hfailed => rw [drain_step, hread h, hfailed, Pull.map]
  | case4 rooms stream hnever => rw [drain_step, hread h, hnever, Pull.map]

/-! ## Operations -/

/-- One operation hands out bytes from the front and keeps all others. -/
theorem step_conserves (stream : Replay Duplex) (operation : Operation) :
    (stream.step operation).1.bytes ++ (stream.step operation).2.bytes = stream.bytes := by
  have hcall : ∀ call, (stream.call call).1.bytes ++ (stream.call call).2.bytes = stream.bytes := by
    intro call
    rw [Replay.call, Call.bytes_answer]
    rfl
  cases operation with
  | read room =>
    have h := conserves_read room stream
    rw [step]
    cases hread : stream.read Duplex.read room with
    | got wait data rest =>
      rw [hread] at h
      exact h.2.symm
    | failed wait reason rest =>
      rw [hread] at h
      exact h.symm
    | never => rfl
  | readToEnd => exact stream.drain_conserves _
  | isWriteVectored => rfl
  | write | writeVectored | flush | shutdown => exact hcall _

/-- Operations in a row hand out bytes from the front and keep all others. -/
theorem run_conserves (stream : Replay Duplex) (operations : List Operation) :
    stream.delivered operations ++ (stream.after operations).bytes = stream.bytes := by
  induction operations generalizing stream with
  | nil => rfl
  | cons operation rest ih =>
    rw [delivered_cons, after_cons, List.append_assoc, ih, step_conserves]

/-! ## Single reads -/

/-- A read that gives no bytes is answered by the end. -/
theorem step_read_of_end {stream : Replay Duplex} {room : Nat} {pull : Pull (Replay Duplex)}
    (hread : stream.read Duplex.read room = pull)
    (hnone : ∀ wait bytes rest, pull = .got wait bytes rest → bytes = []) :
    (stream.step (.read room)).1 = .ofEnding pull.ending := by
  rw [step, hread]
  cases pull with
  | got wait bytes rest => exact congrArg Answer.data (hnone wait bytes rest rfl)
  | failed | never => rfl

/-- Single reads into the same buffers give piece by piece what reading to the end gives at once:
some bytes each, as long as there are any, and then the answer that stands for the end. -/
theorem exists_reads_eq_drain (rooms : Nat → Nat) (stream : Replay Duplex) :
    ∃ count, (∀ given ∈ stream.run (Operation.reads rooms count), given.1.bytes ≠ []) ∧
      stream.delivered (Operation.reads rooms count) = (stream.drain rooms).1 ∧
      ((stream.after (Operation.reads rooms count)).step (.read (rooms count))).1 =
        .ofEnding (stream.drain rooms).2.1 := by
  have hnone : ∀ (rooms : Nat → Nat) (stream : Replay Duplex),
      ∀ given ∈ stream.run (Operation.reads rooms 0), given.1.bytes ≠ [] :=
    fun _ _ _ hmem => absurd hmem List.not_mem_nil
  fun_induction drain rooms stream with
  | case1 rooms stream wait rest hread =>
    refine ⟨0, hnone rooms stream, rfl, step_read_of_end hread fun _ _ _ hgot => ?_⟩
    cases hgot
    rfl
  | case2 rooms stream wait bytes rest hread hsome more ending last hdrain ih =>
    obtain ⟨count, hgiven, hdelivered, hend⟩ := ih
    have hstep : stream.step (.read (rooms 0)) = (.data bytes, rest) := by rw [step, hread]
    rw [hdrain] at hdelivered hend
    refine ⟨count + 1, ?_, ?_, ?_⟩
    · rw [Operation.reads_succ, run, hstep, List.forall_mem_cons]
      exact ⟨hsome, hgiven⟩
    · rw [Operation.reads_succ, delivered_cons, hstep, hdelivered]
      rfl
    · rw [Operation.reads_succ, after_cons, hstep, hend]
  | case3 rooms stream wait reason rest hread =>
    exact ⟨0, hnone rooms stream, rfl, step_read_of_end hread nofun⟩
  | case4 rooms stream hread =>
    exact ⟨0, hnone rooms stream, rfl, step_read_of_end hread nofun⟩

/-- What reading a stream to the end gives, in buffers of any sizes with room. -/
structure GivesToEnd (stream : Replay Duplex) (content : Bytes) : Prop where
  /-- Reading to the end gives the content, and stops as the data of the transport does. -/
  drains : ∀ rooms : Nat → Nat, (∀ turn, 0 < rooms turn) →
    (stream.drain rooms).1 = content ∧ (stream.drain rooms).2.1 = stream.inner.inlet.ending
  /-- Single reads come to an end.  Until then each gives some bytes, together the content, and the
  next is answered by the end. -/
  reads : ∀ rooms : Nat → Nat, (∀ turn, 0 < rooms turn) → ∃ count,
    (∀ given ∈ stream.run (Operation.reads rooms count), given.1.bytes ≠ []) ∧
      stream.delivered (Operation.reads rooms count) = content ∧
      ((stream.after (Operation.reads rooms count)).step (.read (rooms count))).1 =
        .ofEnding stream.inner.inlet.ending

theorem givesToEnd (stream : Replay Duplex) : stream.GivesToEnd stream.content where
  drains := fun _ hrooms => drain_eq hrooms stream
  reads := by
    intro rooms hrooms
    obtain ⟨hcontent, hending⟩ := drain_eq hrooms stream
    rw [← hcontent, ← hending]
    exact stream.exists_reads_eq_drain rooms

end Replay

end ProxyGate.Stream
