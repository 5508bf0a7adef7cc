/-!
# Watching a value

A writer keeps a value that any number of watchers look at.  Every put gives the value a new version,
and a watcher remembers the version that it saw last: looking at the value without waiting leaves
that as it is, waiting does not.

A watcher that waits for a value looks at the one that is there, whether it has seen it or not, and
falls asleep unless that is what it waits for.  Each put and the end of the writer wake all that are
asleep at that moment; whoever wakes asks what is new.  `Watch.poll` goes on with a wait as far as it
gets without sleeping.
-/

namespace ProxyGate

/-- A value that is watched. -/
structure Watch (α : Type) where
  value : α
  /-- How often a value was put. -/
  version : Nat := 0
  /-- Whether the writer is gone. -/
  closed : Bool := false
  /-- How often those asleep were woken. -/
  wakes : Nat := 0
  /-- The number of watchers. -/
  watchers : Nat := 0
deriving DecidableEq, Repr

namespace Watch

/-- Where a wait for a value stands. -/
inductive Wait where
  /-- It looks at the value, for the last time if the writer is known to be gone. -/
  | looking (last : Bool)
  /-- It asks whether there is something new. -/
  | asking
  /-- It sleeps since this many wakes. -/
  | asleep (wakes : Nat)
deriving DecidableEq, Repr

/-- How far a wait gets without sleeping; the number after `seen` is the version seen last. -/
inductive Attempt where
  /-- The value was found, or the writer is gone and will put no other. -/
  | over (found : Bool) (seen : Nat)
  /-- The wait sleeps since this many wakes. -/
  | pending (wakes seen : Nat)
deriving DecidableEq, Repr

variable {α : Type}

/-- Puts a value and wakes all that are asleep. -/
def put (watch : Watch α) (value : α) : Watch α :=
  { watch with value, version := watch.version + 1, wakes := watch.wakes + 1 }

/-- Ends the writer and wakes all that are asleep. -/
def close (watch : Watch α) : Watch α :=
  { watch with closed := true, wakes := watch.wakes + 1 }

/-- Counts a watcher that comes. -/
def join (watch : Watch α) : Watch α := { watch with watchers := watch.watchers + 1 }

/-- Counts a watcher that goes. -/
def leave (watch : Watch α) : Watch α := { watch with watchers := watch.watchers - 1 }

/-- How many turns a wait can still take before it sleeps. -/
def Wait.rank (watch : Watch α) (seen : Nat) : Wait → Nat
  | .looking true => 0
  | .looking false => 2
  | .asking => if seen = watch.version then 1 else 3
  | .asleep _ => 4

/-- Goes on with a wait for a value that passes a test. -/
def poll (watch : Watch α) (test : α → Bool) (seen : Nat) : Wait → Attempt
  | .looking last =>
    if (¬last ∨ seen ≠ watch.version) ∧ test watch.value then .over true watch.version
    else if last then .over false watch.version
    else watch.poll test watch.version .asking
  | .asking =>
    if seen ≠ watch.version then watch.poll test watch.version (.looking false)
    else if watch.closed then watch.poll test seen (.looking true)
    else .pending watch.wakes seen
  | .asleep wakes =>
    if wakes = watch.wakes then .pending wakes seen else watch.poll test seen .asking
termination_by wait => wait.rank watch seen
decreasing_by all_goals grind [Wait.rank]

end Watch

end ProxyGate
