import ProxyGate.Listener.Fault

/-!
# Admitting clients

A listener has a fixed number of slots.  To accept a client it first claims a slot and then takes
the client that has waited longest; when no client waits, the attempt is given up and the slot goes
back.  A client that was accepted keeps its slot, as a numbered permit, until that is released.
-/

namespace ProxyGate.Listener

/-- The slots of a listener, the clients that wait, and the permits given out. -/
structure Admission where
  /-- The slots that are free. -/
  free : Nat
  /-- The numbers of the clients that wait, the first to come at the front. -/
  waiting : List Nat := []
  /-- How many clients have come. -/
  arrived : Nat := 0
  /-- For each permit the client that has it, until it is released. -/
  permits : List (Option Nat) := []
deriving DecidableEq, Repr

/-- What can happen at a listener. -/
inductive Request where
  /-- A client connects. -/
  | connect
  /-- The listener tries to accept a client. -/
  | accept
  /-- A connection ends and gives its permit back. -/
  | release (permit : Nat)
  /-- Another listener is opened at the same address. -/
  | rebind
deriving DecidableEq, Repr

/-- What comes of it. -/
inductive Reply where
  | done
  /-- A client was accepted. -/
  | accepted (permit client : Nat)
  /-- The attempt would have had to wait. -/
  | pending
  /-- The permit was released or never given out. -/
  | noPermit
  | refused (fault : Fault)
deriving DecidableEq, Repr

namespace Admission

/-- Claims a slot. -/
def claim? (admission : Admission) : Option Admission :=
  if admission.free = 0 then none else some { admission with free := admission.free - 1 }

/-- Gives a slot back. -/
def giveBack (admission : Admission) : Admission :=
  { admission with free := admission.free + 1 }

/-- Takes the client that has waited longest, with a slot already claimed. -/
def take? (admission : Admission) : Option (Reply × Admission) :=
  match admission.waiting with
  | [] => none
  | client :: rest =>
    some (.accepted admission.permits.length client,
      { admission with waiting := rest, permits := admission.permits ++ [some client] })

/-- One attempt to accept a client. -/
def accept (admission : Admission) : Reply × Admission :=
  match admission.claim? with
  | none => (.pending, admission)
  | some claimed =>
    match claimed.take? with
    | none => (.pending, claimed.giveBack)
    | some accepted => accepted

/-- Releases a permit. -/
def release (admission : Admission) (permit : Nat) : Reply × Admission :=
  if (admission.permits.getD permit none).isSome then
    (.done, { admission.giveBack with permits := admission.permits.set permit none })
  else (.noPermit, admission)

/-- A client comes. -/
def connect (admission : Admission) : Admission :=
  { admission with
    waiting := admission.waiting ++ [admission.arrived]
    arrived := admission.arrived + 1 }

/-- Carries out one request. -/
def step (admission : Admission) : Request → Reply × Admission
  | .connect => (.done, admission.connect)
  | .accept => admission.accept
  | .release permit => admission.release permit
  | .rebind => (.refused .addressInUse, admission)

/-- Carries out requests in order: each reply with the state after it. -/
def run (admission : Admission) : List Request → List (Reply × Admission)
  | [] => []
  | request :: rest =>
    let (reply, next) := admission.step request
    (reply, next) :: next.run rest

end Admission

end ProxyGate.Listener
