import ProxyGate.Stream.Conservation

/-!
# Streams with bytes to replay

Whoever reads a header takes bytes off the connection that belong to what follows it.  A `Replay`
gives them back: reads are served from the held bytes alone until there are none, and from the
transport after that.  The write side is the transport's own.

Reading a stream to its end, `drain`, is reading it again and again.  It ends because a read that
gives bytes takes them off what the stream and its transport hold.
-/

namespace ProxyGate.Stream

/-- A transport with bytes in front of it. -/
structure Replay (σ : Type) where
  /-- The bytes not yet handed to a reader. -/
  held : Bytes
  inner : σ
deriving DecidableEq, Repr

namespace Replay

/-- A transport with nothing in front of it. -/
def direct {σ : Type} (inner : σ) : Replay σ := ⟨[], inner⟩

/-- Reads the held bytes first, and never both at once. -/
def read {σ : Type} (reader : Reader σ) : Reader (Replay σ) := fun room stream =>
  if stream.held = [] then (reader room stream.inner).map direct
  else .got 0 (stream.held.take room) { stream with held := stream.held.drop room }

/-- The same stream with its write side changed. -/
def withOutlet (stream : Replay Duplex) (outlet : Outlet) : Replay Duplex :=
  { stream with inner := { stream.inner with outlet } }

end Replay

/-- A replay conserves what its transport conserves. -/
theorem Conserves.replay {σ : Type} {reader : Reader σ} {unread : σ → Bytes}
    (h : Conserves reader unread) :
    Conserves (Replay.read reader) (fun stream => stream.held ++ unread stream.inner) := by
  intro room stream
  rw [Replay.read]
  by_cases hheld : stream.held = []
  · have hinner := h room stream.inner
    rw [if_pos hheld]
    cases hread : reader room stream.inner <;>
      simp only [hread, hheld, Pull.map, Replay.direct, List.nil_append] at hinner ⊢ <;>
      exact hinner
  · rw [if_neg hheld]
    refine ⟨List.length_take_le _ _, ?_⟩
    rw [← List.append_assoc, List.take_append_drop]

namespace Replay

/-! ## Reading to the end -/

/-- All bytes that a stream still holds and that its transport still has. -/
def bytes (stream : Replay Duplex) : Bytes := stream.held ++ stream.inner.inlet.bytes

theorem conserves_read : Conserves (Replay.read Duplex.read) bytes :=
  Duplex.conserves_read.replay

/-- A read that gives bytes leaves fewer of them. -/
theorem length_bytes_lt_of_read {stream rest : Replay Duplex} {room wait : Nat} {bytes : Bytes}
    (hread : stream.read Duplex.read room = .got wait bytes rest) (hsome : bytes ≠ []) :
    rest.bytes.length < stream.bytes.length := by
  have hpos : 0 < bytes.length := List.length_pos_iff.mpr hsome
  have hconserved := conserves_read room stream
  rw [hread] at hconserved
  rw [hconserved.2, List.length_append]
  omega

/-- Reads into one buffer after the other, of these sizes, until a read gives nothing, fails or has
to wait for ever: all the bytes, how it stopped, and the stream then. -/
def drain (rooms : Nat → Nat) (stream : Replay Duplex) : Bytes × Script.Ending × Replay Duplex :=
  match _hread : stream.read Duplex.read (rooms 0) with
  | .got _ bytes rest =>
    if _hsome : bytes = [] then ([], .finished, rest)
    else
      let (more, ending, last) := drain (fun turn => rooms (turn + 1)) rest
      (bytes ++ more, ending, last)
  | .failed _ reason rest => ([], .failed reason, rest)
  | .never => ([], .pending, stream)
termination_by stream.bytes.length
decreasing_by exact length_bytes_lt_of_read _hread _hsome

end Replay

/-! ## Operations -/

/-- What can be asked of a stream. -/
inductive Operation where
  | read (room : Nat)
  | readToEnd
  | write (bytes : Bytes)
  | writeVectored (buffers : List Bytes)
  | isWriteVectored
  | flush
  | shutdown
deriving DecidableEq, Repr

/-- What a stream answers. -/
inductive Answer where
  /-- A read gave these bytes. -/
  | data (bytes : Bytes)
  /-- A read or a call failed. -/
  | failed (reason : String)
  /-- A read has to wait for ever, or a call has to wait. -/
  | pending
  /-- Reading to the end gave these bytes and stopped this way. -/
  | drained (bytes : Bytes) (ending : Script.Ending)
  /-- A write took this many bytes. -/
  | wrote (count : Nat)
  /-- Whether several buffers are written at once. -/
  | vectored (value : Bool)
  | done
deriving DecidableEq, Repr

/-- What is answered to a call that is carried out. -/
def Call.outcome (reply : Reply) : Call → Answer
  | .write bytes => .wrote (reply.taken bytes).length
  | .writeVectored buffers => .wrote (reply.taken buffers.flatten).length
  | .flush | .shutdown => .done

/-- What is answered to a call, by how it is taken. -/
def Call.answer (call : Call) : Reply → Answer
  | .ready limit => call.outcome (.ready limit)
  | .failed reason => .failed reason
  | .pending => .pending

namespace Replay

/-- Whether an operation can be carried out with what has come so far. -/
def isReady (stream : Replay Duplex) : Operation → Bool
  | .read _ => stream.held ≠ [] || stream.inner.inlet.isReady
  | .readToEnd => stream.inner.inlet.isComplete
  | .write _ | .writeVectored _ | .isWriteVectored | .flush | .shutdown => true

/-- Passes a call on to the transport. -/
def call (stream : Replay Duplex) (call : Call) : Answer × Replay Duplex :=
  let (reply, outlet) := stream.inner.outlet.take call
  (call.answer reply, stream.withOutlet outlet)

/-- The room for each read when a stream is read to its end. -/
def drainRoom : Nat := 4096

/-- Carries out one operation. -/
def step (stream : Replay Duplex) : Operation → Answer × Replay Duplex
  | .read room =>
    match stream.read Duplex.read room with
    | .got _ bytes rest => (.data bytes, rest)
    | .failed _ reason rest => (.failed reason, rest)
    | .never => (.pending, stream)
  | .readToEnd =>
    let (bytes, ending, rest) := stream.drain fun _ => drainRoom
    (.drained bytes ending, rest)
  | .write bytes => stream.call (.write bytes)
  | .writeVectored buffers => stream.call (.writeVectored buffers)
  | .isWriteVectored => (.vectored stream.inner.outlet.vectored, stream)
  | .flush => stream.call .flush
  | .shutdown => stream.call .shutdown

/-- Carries out operations in order: each answer with the stream after it. -/
def run (stream : Replay Duplex) : List Operation → List (Answer × Replay Duplex)
  | [] => []
  | operation :: rest =>
    let (answer, next) := stream.step operation
    (answer, next) :: next.run rest

end Replay

end ProxyGate.Stream
