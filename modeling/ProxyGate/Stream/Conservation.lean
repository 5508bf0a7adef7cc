import ProxyGate.Stream.Duplex

/-!
# What a source still holds

`Script.bytes` is all that a script holds, also behind the end of its data.  A read takes the bytes
that it gives off the front and changes nothing else: `Conserves` says so for any source, and
`Duplex.conserves_read` for transports.
-/

namespace ProxyGate.Stream

/-- The bytes of a step. -/
def Step.bytes : Step → Bytes
  | .data bytes => bytes
  | .delay _ | .stall | .finish | .failure _ => []

/-- A source from which reads take bytes off the front, and nothing else. -/
def Conserves {σ : Type} (reader : Reader σ) (unread : σ → Bytes) : Prop :=
  ∀ (room : Nat) (source : σ), match reader room source with
    | .got _ bytes rest => bytes.length ≤ room ∧ unread source = bytes ++ unread rest
    | .failed _ _ rest => unread source = unread rest
    | .never => True

namespace Script

/-- All bytes of a script, also those behind the end of its data. -/
def bytes (script : Script) : Bytes := script.flatMap Step.bytes

theorem bytes_cons (step : Step) (rest : Script) :
    bytes (step :: rest) = step.bytes ++ bytes rest := rfl

theorem bytes_unread (data : Bytes) (rest : Script) :
    bytes (unread data rest) = data ++ bytes rest := by
  by_cases hne : data = []
  · simp [unread, hne]
  · rw [unread, if_neg hne, bytes_cons, Step.bytes]

/-- A read of a script conserves the bytes it holds. -/
theorem conserves_read : Conserves read bytes := by
  intro room script
  induction script with
  | nil => exact ⟨Nat.zero_le _, rfl⟩
  | cons step rest ih =>
    cases step with
    | data data =>
      refine ⟨List.length_take_le room data, ?_⟩
      rw [bytes_unread, bytes_cons, Step.bytes, ← List.append_assoc, List.take_append_drop]
    | delay milliseconds =>
      rw [read]
      cases hread : read room rest <;> simp only [hread, Pull.after] at ih ⊢ <;> exact ih
    | stall => trivial
    | finish => exact ⟨Nat.zero_le _, rfl⟩
    | failure reason => rfl

end Script

/-- A read of a transport conserves the bytes of its script. -/
theorem Duplex.conserves_read : Conserves Duplex.read (·.inlet.bytes) := by
  intro room duplex
  have h := Script.conserves_read room duplex.inlet
  rw [Duplex.read]
  cases hread : duplex.inlet.read room <;> simp only [hread] at h ⊢ <;> exact h

end ProxyGate.Stream
