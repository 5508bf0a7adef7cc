import ProxyGate.Text.Bytes

/-!
# Sources of bytes

A source is read into a buffer of a given size.  A read may have to wait first; time is counted in
milliseconds and passes only while a read waits.  A read that gives no bytes into a buffer with room
means that the data has ended.

`Script` is the source whose whole behaviour is known in advance.
-/

namespace ProxyGate.Stream

/-- How a read ends: with bytes or a failure after a wait, or never.  What is left to read comes
with the answer. -/
inductive Pull (σ : Type) where
  | got (wait : Nat) (bytes : Bytes) (rest : σ)
  | failed (wait : Nat) (reason : String) (rest : σ)
  | never

namespace Pull

/-- The same answer with another form of what is left. -/
def map {σ τ : Type} (f : σ → τ) : Pull σ → Pull τ
  | .got wait bytes rest => .got wait bytes (f rest)
  | .failed wait reason rest => .failed wait reason (f rest)
  | .never => .never

/-- The same answer after a longer wait. -/
def after {σ : Type} (milliseconds : Nat) : Pull σ → Pull σ
  | .got wait bytes rest => .got (milliseconds + wait) bytes rest
  | .failed wait reason rest => .failed (milliseconds + wait) reason rest
  | .never => .never

end Pull

/-- How a source answers a read into a buffer of a given size. -/
abbrev Reader (σ : Type) := Nat → σ → Pull σ

/-- One step of a scripted source. -/
inductive Step where
  /-- Bytes that are ready.  A read takes as many as fit; a step of no bytes is a read of none. -/
  | data (bytes : Bytes)
  /-- Time that passes before the next step. -/
  | delay (milliseconds : Nat)
  /-- Nothing more, ever, and no end either. -/
  | stall
  /-- The end of the data, for every read from here on. -/
  | finish
  /-- A read that fails. -/
  | failure (reason : String)
deriving DecidableEq, Repr

namespace Step

/-- Whether a step only lets time pass. -/
def isDelay : Step → Bool
  | .delay _ => true
  | _ => false

/-- Whether nothing behind a step is reached by reading to the end. -/
def isEnding : Step → Bool
  | .stall | .finish | .failure _ => true
  | .data _ | .delay _ => false

end Step

/-- The behaviour of a source; after the last step its data has ended. -/
abbrev Script := List Step

namespace Script

/-- What is left of bytes after a read, in front of the later steps. -/
def unread (bytes : Bytes) (rest : Script) : Script :=
  if bytes = [] then rest else .data bytes :: rest

/-- Reads a script into a buffer. -/
def read : Reader Script
  | _, [] => .got 0 [] []
  | room, .data bytes :: rest => .got 0 (bytes.take room) (unread (bytes.drop room) rest)
  | room, .delay milliseconds :: rest => (read room rest).after milliseconds
  | _, .stall :: _ => .never
  | _, .finish :: rest => .got 0 [] (.finish :: rest)
  | _, .failure reason :: rest => .failed 0 reason rest

/-- Whether the next read is answered by a step of the script and not by its end. -/
def isReady (script : Script) : Bool :=
  script.any fun step => !step.isDelay

/-- Whether reading to the end is answered by the script and not by its end. -/
def isComplete (script : Script) : Bool :=
  script.any Step.isEnding

/-- Whether the next read is answered by data, if only by none of it. -/
def offersData : Script → Bool
  | .data _ :: _ => true
  | .delay _ :: rest => offersData rest
  | _ => false

/-- How reading to the end stops. -/
inductive Ending where
  | finished
  | failed (reason : String)
  | pending
deriving DecidableEq, Repr

end Script

end ProxyGate.Stream
