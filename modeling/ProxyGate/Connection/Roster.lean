import ProxyGate.Connection.Guard
import ProxyGate.Metrics

/-!
# Counting open connections

A tracker counts the connections that are open.  Trackers may share one count, so that several
listeners can be asked as one, or have counts of their own.  Every connection that is tracked gets a
guard with a new number, and the count is one higher until that guard is dropped, whether its tracker
is still there or not.

`Roster` holds trackers and guards, both numbered as they come; `step` carries out one request.
-/

namespace ProxyGate.Connection

/-- A guard with the count that it belongs to. -/
structure Member where
  guard : Guard
  /-- The place of its count. -/
  count : Nat
deriving DecidableEq, Repr

/-- Trackers, guards, and what was recorded of them. -/
structure Roster where
  /-- The counts that are independent of each other. -/
  counts : List Nat := [0]
  /-- The place of each tracker's count; a dropped tracker leaves its place empty. -/
  trackers : List (Option Nat) := [some 0]
  /-- The guards in the order of tracking; a dropped one leaves its place empty. -/
  members : List (Option Member) := []
  /-- The number of the next guard, which all trackers count on together. -/
  next : UInt64 := 1
  metrics : Metrics := {}
deriving DecidableEq, Repr

/-- What can be asked of a roster. -/
inductive Request where
  /-- Track a connection with a tracker. -/
  | track (policy : Policy) (tracker : Nat)
  /-- Ask a guard for a change of phase. -/
  | change (guard : Nat) (phase : Phase)
  /-- Drop a guard. -/
  | drop (guard : Nat)
  /-- Add a tracker that shares a tracker's count. -/
  | share (tracker : Nat)
  /-- Add a tracker with a count of its own. -/
  | fresh
  /-- Drop a tracker. -/
  | dropTracker (tracker : Nat)
deriving DecidableEq, Repr

/-- What a roster answers. -/
inductive Reply where
  /-- A guard was made. -/
  | tracked (guard : Guard)
  /-- A guard was asked for a change and is in this phase now. -/
  | phase (phase : Phase)
  | done
  /-- The guard was dropped or never made. -/
  | noGuard
  /-- The tracker was dropped or never made. -/
  | noTracker
deriving DecidableEq, Repr

/-- An answer with the entries that it leaves in the log. -/
structure Response where
  reply : Reply
  entries : List Log.Entry := []
deriving DecidableEq, Repr

namespace Roster

/-- The number of the next guard: one for the first, and one more each time. -/
def nextId (roster : Roster) : Nat := roster.next.toNat

/-- The place of a tracker's count, unless the tracker was dropped. -/
def tracker? (roster : Roster) (tracker : Nat) : Option Nat :=
  (roster.trackers[tracker]?).join

/-- The number of connections under a count. -/
def countAt (roster : Roster) (place : Nat) : Nat :=
  roster.counts.getD place 0

/-- The count of a tracker, unless it was dropped. -/
def active? (roster : Roster) (tracker : Nat) : Option Nat :=
  (roster.tracker? tracker).map roster.countAt

/-- The count of each tracker that is still there. -/
def active (roster : Roster) : List Nat :=
  roster.trackers.filterMap fun tracker => tracker.map roster.countAt

/-- Tracks a connection under a count. -/
def track (roster : Roster) (policy : Policy) (count : Nat) : Response × Roster :=
  let guard := Guard.start roster.nextId policy
  (⟨.tracked guard, []⟩,
    { roster with
      counts := roster.counts.modify count (· + 1)
      members := roster.members ++ [some ⟨guard, count⟩]
      next := roster.next + 1
      metrics := roster.metrics.opened policy })

/-- Asks a guard for a change of phase. -/
def change (roster : Roster) (place : Nat) (member : Member) (phase : Phase) :
    Response × Roster :=
  let (guard, entry) := member.guard.change phase
  (⟨.phase guard.phase, [entry]⟩,
    { roster with members := roster.members.set place (some { member with guard }) })

/-- Drops a guard. -/
def drop (roster : Roster) (place : Nat) (member : Member) : Response × Roster :=
  (⟨.done, [member.guard.closedEntry]⟩,
    { roster with
      counts := roster.counts.modify member.count (· - 1)
      members := roster.members.set place none
      metrics := roster.metrics.closed })

/-- The guard with a number, unless it was dropped. -/
def member? (roster : Roster) (place : Nat) : Option Member :=
  (roster.members[place]?).join

/-- Adds a tracker under a count. -/
def addTracker (roster : Roster) (count : Nat) : Roster :=
  { roster with trackers := roster.trackers ++ [some count] }

/-- Adds a count. -/
def addCount (roster : Roster) : Roster := { roster with counts := roster.counts ++ [0] }

/-- Carries out one request. -/
def step (roster : Roster) : Request → Response × Roster
  | .track policy tracker =>
    match roster.tracker? tracker with
    | some count => roster.track policy count
    | none => (⟨.noTracker, []⟩, roster)
  | .change place phase =>
    match roster.member? place with
    | some member => roster.change place member phase
    | none => (⟨.noGuard, []⟩, roster)
  | .drop place =>
    match roster.member? place with
    | some member => roster.drop place member
    | none => (⟨.noGuard, []⟩, roster)
  | .share tracker =>
    match roster.tracker? tracker with
    | some count => (⟨.done, []⟩, roster.addTracker count)
    | none => (⟨.noTracker, []⟩, roster)
  | .fresh => (⟨.done, []⟩, roster.addCount.addTracker roster.counts.length)
  | .dropTracker tracker =>
    match roster.tracker? tracker with
    | some _ => (⟨.done, []⟩, { roster with trackers := roster.trackers.set tracker none })
    | none => (⟨.noTracker, []⟩, roster)

/-- Carries out requests in order: each response with the roster after it. -/
def run (roster : Roster) : List Request → List (Response × Roster)
  | [] => []
  | request :: rest =>
    let (response, next) := roster.step request
    (response, next) :: next.run rest

end Roster

end ProxyGate.Connection
