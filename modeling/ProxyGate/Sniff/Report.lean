import ProxyGate.Log
import ProxyGate.Sniff.Window
import ProxyGate.Stream.Replay

/-!
# Finding the header of a connection

A listener either demands a header on every connection or looks for none.  Without the demand
nothing is read and nothing can fail.  With it the connection must open with a valid header before
the time limit; what was read behind the header is replayed to whoever reads next.
-/

namespace ProxyGate

/-- Whether connections must open with a header. -/
inductive Policy where
  | disabled
  | required
deriving DecidableEq, Repr

namespace Policy

/-- The policy that a switch stands for. -/
def ofBool (required : Bool) : Policy :=
  if required then .required else .disabled

/-- Whether a header is demanded. -/
def isRequired : Policy → Bool
  | .disabled => false
  | .required => true

/-- The label under which connections are counted. -/
def label : Policy → String
  | .disabled => "disabled"
  | .required => "required"

end Policy

namespace Sniff

open ProxyGate.Stream

/-- A connection whose header, if one was demanded, has been read. -/
structure Accepted (σ : Type) where
  header : Option Header
  stream : Replay σ
deriving DecidableEq, Repr

/-- How looking for a header went. -/
structure Report (σ : Type) where
  result : Except Failure (Accepted σ)
  /-- The search as it stood at its end. -/
  progress : Progress σ

/-- What an ended search comes to: its line must say a header. -/
def conclude {σ : Type} (progress : Progress σ) :
    Except Failure Nat → Except Failure (Accepted σ)
  | .error failure => .error failure
  | .ok length =>
    match Header.parse (progress.window.take length) with
    | .error fault => .error (.refused fault)
    | .ok header => .ok ⟨some header, ⟨progress.window.drop length, progress.source⟩⟩

/-- The report of an ended search. -/
def Report.ofSearch {σ : Type} (search : Progress σ × Except Failure Nat) : Report σ :=
  ⟨conclude search.1 search.2, search.1⟩

/-- Looks for a header under a policy and a time limit in milliseconds. -/
def sniff {σ : Type} (reader : Reader σ) (limit : Nat) (source : σ) : Policy → Report σ
  | .disabled => ⟨.ok ⟨none, Replay.direct source⟩, .start source⟩
  | .required => .ofSearch (run reader limit (.start source))

/-- The entry for an accepted header. -/
def acceptedEntry (header : Header) (replayed : Nat) : Log.Entry :=
  ⟨.debug, "PROXY header accepted",
    [("proxy_line", header.text), ("replayed", String.ofList (Text.decimal replayed))]⟩

/-- What looking for a header leaves in the log. -/
def Report.entries {σ : Type} (report : Report σ) : List Log.Entry :=
  match report.result with
  | .ok ⟨some header, stream⟩ => [acceptedEntry header stream.held.length]
  | _ => []

end Sniff

end ProxyGate
