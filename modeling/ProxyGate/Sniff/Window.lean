import ProxyGate.Header.Parser
import ProxyGate.Sniff.Failure
import ProxyGate.Stream.Source

/-!
# Reading up to the end of the first line

A connection is read into a window as long as the longest header.  After each read the window is
judged: other bytes than a header's first word end the search, a line ending completes the line, and
a full window without one means that the line is too long.  Only the new bytes, and the one before
them, are searched for the line ending.

`step` is one read with its judgement and `run` the whole search.  Time is counted over the search
as a whole: every read has what the reads before it left of the limit, and bytes that arrive exactly
at the limit still count.
-/

namespace ProxyGate.Sniff

open ProxyGate.Stream

/-- What the bytes of a window ask for. -/
inductive Verdict where
  /-- More bytes are needed. -/
  | more
  /-- The first line has this length, its end included. -/
  | line (length : Nat)
  /-- No header can come of these bytes. -/
  | refuse (fault : Header.Fault)
deriving DecidableEq, Repr

/-- Judges a window after `fresh` bytes were read behind the bytes `seen` before. -/
def judge (seen fresh : Bytes) : Verdict :=
  let window := seen ++ fresh
  let start := seen.length - 1
  if Header.signatureMismatch window then .refuse .badSignature
  else
    match Bytes.crlfAt? (window.drop start) with
    | some position => .line (start + position + Bytes.crlf.length)
    | none => if window.length = Header.maxLength then .refuse .tooLong else .more

/-- A search that is under way. -/
structure Progress (σ : Type) where
  window : Bytes
  /-- Milliseconds since the search began. -/
  elapsed : Nat
  /-- The reads that gave bytes. -/
  reads : Nat
  source : σ
deriving DecidableEq, Repr

namespace Progress

/-- A search that has read nothing. -/
def start {σ : Type} (source : σ) : Progress σ := ⟨[], 0, 0, source⟩

/-- How many bytes the window can still take. -/
def room {σ : Type} (progress : Progress σ) : Nat :=
  Header.maxLength - progress.window.length

/-- The search after a read that gave bytes. -/
def push {σ : Type} (progress : Progress σ) (wait : Nat) (fresh : Bytes) (rest : σ) : Progress σ :=
  ⟨progress.window ++ fresh, progress.elapsed + wait, progress.reads + 1, rest⟩

/-- The search after a read that gave none. -/
def skip {σ : Type} (progress : Progress σ) (wait : Nat) (rest : σ) : Progress σ :=
  { progress with elapsed := progress.elapsed + wait, source := rest }

end Progress

/-- A search after a read: still under way, or ended with the length of the first line or without
one. -/
inductive Status (σ : Type) where
  | reading (progress : Progress σ)
  | ended (progress : Progress σ) (outcome : Except Failure Nat)

namespace Progress

/-- The search when its time is up. -/
def timedOut {σ : Type} (progress : Progress σ) (limit : Nat) : Status σ :=
  .ended { progress with elapsed := limit } (.error (.timeout limit))

/-- The search after a read that gave `fresh` bytes, or none at the end of the data. -/
def receive {σ : Type} (progress : Progress σ) (wait : Nat) (fresh : Bytes) (rest : σ) :
    Status σ :=
  if fresh = [] then .ended (progress.skip wait rest) (.error (.closed progress.window.length))
  else
    match judge progress.window fresh with
    | .more => .reading (progress.push wait fresh rest)
    | .line length => .ended (progress.push wait fresh rest) (.ok length)
    | .refuse fault => .ended (progress.push wait fresh rest) (.error (.refused fault))

end Progress

/-- One read of the source and what it comes to. -/
def step {σ : Type} (reader : Reader σ) (limit : Nat) (progress : Progress σ) : Status σ :=
  match reader progress.room progress.source with
  | .never => progress.timedOut limit
  | .failed wait reason rest =>
    if progress.elapsed + wait ≤ limit then
      .ended (progress.skip wait rest) (.error (.io reason))
    else progress.timedOut limit
  | .got wait bytes rest =>
    if progress.elapsed + wait ≤ limit then
      progress.receive wait (bytes.take progress.room) rest
    else progress.timedOut limit

/-- A search that goes on after a read has less room than before. -/
theorem Progress.room_lt_of_receive_reading {σ : Type} {progress next : Progress σ} {wait : Nat}
    {bytes : Bytes} {rest : σ}
    (h : progress.receive wait (bytes.take progress.room) rest = .reading next) :
    next.room < progress.room := by
  unfold receive at h
  split at h
  · cases h
  · rename_i hfresh
    split at h <;> cases h
    have hlength := List.length_pos_iff.mpr hfresh
    simp only [room, push, List.length_append, List.length_take] at hlength ⊢
    omega

/-- A search that goes on has less room than before. -/
theorem room_lt_of_step_reading {σ : Type} {reader : Reader σ} {limit : Nat}
    {progress next : Progress σ} (h : step reader limit progress = .reading next) :
    next.room < progress.room := by
  unfold step at h
  split at h
  · cases h
  · split at h <;> cases h
  · split at h
    · exact Progress.room_lt_of_receive_reading h
    · cases h

/-- Reads until the search ends. -/
def run {σ : Type} (reader : Reader σ) (limit : Nat) (progress : Progress σ) :
    Progress σ × Except Failure Nat :=
  match _h : step reader limit progress with
  | .ended last outcome => (last, outcome)
  | .reading next => run reader limit next
termination_by progress.room
decreasing_by exact room_lt_of_step_reading ‹_›

end ProxyGate.Sniff
