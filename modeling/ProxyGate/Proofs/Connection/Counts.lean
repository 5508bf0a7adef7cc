import ProxyGate.Connection.Roster
import ProxyGate.Proofs.Metrics
import ProxyGate.Proofs.Transcript
import Mathlib.Data.List.Basic

/-!
# The counts of a roster

Each count of a roster is the number of its guards that are under it, and the gauge of open
connections is the number of all its guards.  `Counted.step` says that every request keeps that, and
`Counted.pos_of_member` that a count is never lowered when it is nothing already.
-/

namespace ProxyGate.Connection

namespace Roster

theorem stepwise_run : Stepwise step run where
  nil := fun _ => rfl
  cons := fun _ _ _ => rfl

/-- The places of counts and members, and the counts of both, go together. -/
structure Counted (roster : Roster) : Prop where
  counts : ∀ place,
    roster.countAt place = roster.members.countP fun member => member.any (·.count = place)
  placed : ∀ member, some member ∈ roster.members → member.count < roster.counts.length
  active : roster.metrics.active = roster.members.countP Option.isSome
  accepted : roster.metrics.required + roster.metrics.disabled = roster.members.length

variable {roster : Roster}

theorem getElem?_of_member? {place : Nat} {member : Member}
    (h : roster.member? place = some member) : roster.members[place]? = some (some member) := by
  rwa [member?, Option.join_eq_some_iff] at h

theorem mem_of_member? {place : Nat} {member : Member}
    (h : roster.member? place = some member) : some member ∈ roster.members :=
  List.mem_of_getElem? (getElem?_of_member? h)

/-- A count that a guard is under, and the gauge, are not nothing. -/
theorem Counted.pos_of_member (h : roster.Counted) {place : Nat} {member : Member}
    (hmember : roster.member? place = some member) :
    0 < roster.countAt member.count ∧ 0 < roster.metrics.active := by
  rw [h.counts, h.active]
  exact ⟨List.countP_pos_iff.mpr ⟨some member, mem_of_member? hmember, by simp⟩,
    List.countP_pos_iff.mpr ⟨some member, mem_of_member? hmember, rfl⟩⟩

/-- A member that goes takes itself off every number of members that it was in. -/
theorem countP_set_none {members : List (Option Member)} {place : Nat} {member : Member}
    (h : members[place]? = some (some member)) (test : Member → Bool) :
    (members.set place none).countP (·.any test) + (test member).toNat =
      members.countP (·.any test) := by
  obtain ⟨hlt, hsame⟩ := List.getElem?_eq_some_iff.mp h
  have hpos : test member = true → 0 < members.countP (·.any test) := fun htest =>
    List.countP_pos_iff.mpr ⟨some member, List.mem_of_getElem? h, by simpa using htest⟩
  rw [List.countP_set hlt, hsame]
  cases htest : test member with
  | false => simp [htest]
  | true =>
    have := hpos htest
    simp only [Option.any_some, htest, if_true, Option.any_none, Bool.false_eq_true, if_false,
      Bool.toNat_true]
    omega

/-- A member that only its guard changes of stays in every number of members. -/
theorem countP_set_some {members : List (Option Member)} {place : Nat} {member : Member}
    (h : members[place]? = some (some member)) (other : Member) (test : Member → Bool)
    (hsame : test other = test member) :
    (members.set place (some other)).countP (·.any test) = members.countP (·.any test) := by
  obtain ⟨hlt, hget⟩ := List.getElem?_eq_some_iff.mp h
  have hpos : test member = true → 0 < members.countP (·.any test) := fun htest =>
    List.countP_pos_iff.mpr ⟨some member, List.mem_of_getElem? h, by simpa using htest⟩
  rw [List.countP_set hlt, hget]
  cases htest : test member with
  | false => simp [hsame, htest]
  | true =>
    have := hpos htest
    simp only [Option.any_some, hsame, htest, if_true]
    omega

theorem isSome_eq_any : (Option.isSome : Option Member → Bool) = (·.any fun _ => true) := by
  funext member
  cases member <;> rfl

theorem countAt_modify (roster : Roster) (count place : Nat) (change : Nat → Nat)
    (hcount : count < roster.counts.length) :
    (roster.counts.modify count change).getD place 0 =
      if place = count then change (roster.countAt place) else roster.countAt place := by
  rw [countAt, List.getD_eq_getElem?_getD, List.getD_eq_getElem?_getD, List.getElem?_modify]
  by_cases hplace : place = count
  · subst hplace
    simp [List.getElem?_eq_getElem hcount]
  · simp [hplace, Ne.symm hplace]

/-! ## The requests -/

theorem Counted.track (h : roster.Counted) (policy : Policy) {count : Nat}
    (hcount : count < roster.counts.length) : (roster.track policy count).2.Counted where
  counts := by
    intro place
    simp only [Roster.track, List.countP_append, List.countP_singleton, Option.any_some]
    rw [countAt, countAt_modify roster count place _ hcount, ← h.counts]
    by_cases hplace : place = count
    · simp [hplace]
    · simp [hplace, Ne.symm hplace]
  placed := by
    intro member hmember
    simp only [Roster.track, List.length_modify, List.mem_append, List.mem_singleton,
      Option.some.injEq] at hmember ⊢
    rcases hmember with hold | rfl
    · exact h.placed member hold
    · exact hcount
  active := by
    simp only [Roster.track, List.countP_append, ← h.active]
    cases policy <;> rfl
  accepted := by
    simp only [Roster.track, List.length_append, ← h.accepted]
    cases policy <;> simp [Metrics.opened] <;> omega

theorem Counted.change (h : roster.Counted) {place : Nat} {member : Member} (phase : Phase)
    (hmember : roster.member? place = some member) :
    (roster.change place member phase).2.Counted where
  counts := by
    intro count
    have hset := countP_set_some (getElem?_of_member? hmember)
      { member with guard := (member.guard.change phase).1 } (·.count = count) rfl
    exact (h.counts count).trans hset.symm
  placed := by
    intro other hother
    rcases List.mem_or_eq_of_mem_set hother with hold | hnew
    · exact h.placed other hold
    · cases hnew
      exact h.placed member (mem_of_member? hmember)
  active := by
    have hset := countP_set_some (getElem?_of_member? hmember)
      { member with guard := (member.guard.change phase).1 } (fun _ => true) rfl
    rw [← isSome_eq_any] at hset
    exact h.active.trans hset.symm
  accepted := by
    simp only [Roster.change, List.length_set]
    exact h.accepted

theorem Counted.drop (h : roster.Counted) {place : Nat} {member : Member}
    (hmember : roster.member? place = some member) :
    (roster.drop place member).2.Counted where
  counts := by
    intro count
    have hset := countP_set_none (getElem?_of_member? hmember) (·.count = count)
    rw [← h.counts] at hset
    simp only [Roster.drop]
    rw [countAt, countAt_modify roster member.count count _ (h.placed member
      (mem_of_member? hmember))]
    by_cases hcount : count = member.count
    · simp only [hcount, decide_true, Bool.toNat_true] at hset ⊢
      rw [if_pos trivial]
      omega
    · rw [if_neg hcount]
      simpa [Ne.symm hcount] using hset.symm
  placed := by
    intro other hother
    simp only [Roster.drop, List.length_modify]
    rcases List.mem_or_eq_of_mem_set hother with hold | hnew
    · exact h.placed other hold
    · cases hnew
  active := by
    have hset := countP_set_none (getElem?_of_member? hmember) fun _ => true
    rw [← isSome_eq_any, ← h.active] at hset
    simp only [Roster.drop, Metrics.closed]
    rw [← hset]
    rfl
  accepted := by
    simp only [Roster.drop, List.length_set]
    exact h.accepted

theorem countAt_addCount (roster : Roster) (place : Nat) :
    roster.addCount.countAt place = roster.countAt place := by
  rw [addCount, countAt, countAt, List.getD_eq_getElem?_getD, List.getD_eq_getElem?_getD,
    getElem?_concat]
  split
  · rename_i hplace
    rw [List.getElem?_eq_none (Nat.le_of_eq hplace.symm)]
    rfl
  · rfl

theorem Counted.addCount (h : roster.Counted) : roster.addCount.Counted where
  counts := by
    intro place
    rw [countAt_addCount]
    exact h.counts place
  placed := by
    intro member hmember
    simp only [Roster.addCount, List.length_append]
    exact Nat.lt_of_lt_of_le (h.placed member hmember) (Nat.le_add_right _ _)
  active := h.active
  accepted := h.accepted

/-- Nothing but a change of the trackers happens. -/
theorem Counted.of_same (h : roster.Counted) {next : Roster} (hcounts : next.counts = roster.counts)
    (hmembers : next.members = roster.members) (hmetrics : next.metrics = roster.metrics) :
    next.Counted where
  counts := by
    intro place
    rw [countAt, hcounts, hmembers]
    exact h.counts place
  placed := by
    rw [hcounts, hmembers]
    exact h.placed
  active := by
    rw [hmetrics, hmembers]
    exact h.active
  accepted := by
    rw [hmetrics, hmembers]
    exact h.accepted

theorem counted_start : ({} : Roster).Counted where
  counts := by
    intro place
    cases place <;> rfl
  placed := by simp
  active := rfl
  accepted := rfl

/-- Every request keeps the counts, if trackers have places. -/
theorem Counted.step (h : roster.Counted)
    (hplaces : ∀ tracker count, roster.tracker? tracker = some count →
      count < roster.counts.length) (request : Request) :
    (roster.step request).2.Counted := by
  cases request with
  | track policy tracker =>
    simp only [Roster.step]
    split
    · rename_i count htracker
      exact h.track policy (hplaces tracker count htracker)
    · exact h
  | change place phase =>
    simp only [Roster.step]
    split
    · rename_i member hmember
      exact h.change phase hmember
    · exact h
  | drop place =>
    simp only [Roster.step]
    split
    · rename_i member hmember
      exact h.drop hmember
    · exact h
  | share tracker =>
    simp only [Roster.step]
    split
    · exact h.of_same rfl rfl rfl
    · exact h
  | fresh => exact h.addCount.of_same rfl rfl rfl
  | dropTracker tracker =>
    simp only [Roster.step]
    split
    · exact h.of_same rfl rfl rfl
    · exact h

end Roster

end ProxyGate.Connection
