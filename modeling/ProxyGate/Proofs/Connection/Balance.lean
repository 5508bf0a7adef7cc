import ProxyGate.Proofs.Connection.Ledger

/-!
# The books of a roster balance

What the ledger of a run says about the counts, the gauge, the numbers and the log of the roster: one
lemma for each, and `roster_accounts` for all of them after every sequence of requests.
-/

namespace ProxyGate.Connection

variable {ledger : Ledger} {places : List Nat} {roster : Roster}

/-! ## Counts -/

/-- The count of a tracker is the number of guards that are open under it. -/
theorem Kept.count_eq (h : Kept ledger places roster) {tracker count : Nat}
    (hactive : roster.active? tracker = some count) : count = ledger.openUnder tracker := by
  obtain ⟨place, htracker, rfl⟩ := Option.map_eq_some_iff.mp hactive
  have hplace := h.placed.of_tracker? htracker
  let under (view : Option (Option Nat × Phase)) : Bool := view.any (·.1 = some place)
  have hroster : roster.countAt place =
      (roster.members.map (Option.map Member.view)).countP under := by
    rw [h.counted.counts, List.countP_map]
    refine List.countP_congr fun member _ => ?_
    cases member <;> simp [under, Member.view]
  have hledger : ledger.openUnder tracker =
      (ledger.held.map (Option.map (Holding.view places))).countP under := by
    rw [Ledger.openUnder, List.countP_map]
    refine List.countP_congr fun entry _ => ?_
    cases entry with
    | none => simp [under]
    | some holding => simp [under, Holding.view, h.placed.shares_iff hplace]
  rw [hroster, hledger, h.matched.held]

/-- The gauge is the number of all guards that are held. -/
theorem Kept.gauge_eq (h : Kept ledger places roster) :
    roster.metrics.value Metrics.activeName = ledger.held.countP Option.isSome := by
  have hviews : ∀ {α : Type} (entries : List (Option α)) (view : α → Option Nat × Phase),
      entries.countP Option.isSome = (entries.map (Option.map view)).countP Option.isSome := by
    intro α entries view
    rw [List.countP_map]
    refine List.countP_congr fun entry _ => ?_
    cases entry <;> rfl
  rw [Metrics.value_activeName, h.counted.active, hviews _ Member.view, ← h.matched.held,
    ← hviews]
  intro hnone
  rw [h.counted.accepted, List.length_eq_zero_iff] at hnone
  rw [h.counted.active, hnone]
  rfl

theorem active?_of_same {next : Roster} {tracker place : Nat}
    (htracker : next.tracker? tracker = some place)
    (hcount : next.countAt place = roster.countAt place) :
    next.active? tracker = some (roster.countAt place) := by
  rw [Roster.active?, htracker, Option.map_some, hcount]

/-- A tracker that is added takes the place of no other. -/
theorem tracker?_addTracker (count : Nat) {tracker place : Nat}
    (htracker : roster.tracker? tracker = some place) :
    (roster.addTracker count).tracker? tracker = some place := by
  have hlt : tracker < roster.trackers.length := by
    rw [Roster.tracker?, Option.join_eq_some_iff] at htracker
    exact (List.getElem?_eq_some_iff.mp htracker).1
  rw [Roster.tracker?, Roster.addTracker, List.getElem?_append_left hlt]
  exact htracker

/-- A request that does not concern a tracker leaves its count as it is. -/
theorem Kept.active?_step (h : Kept ledger places roster) {request : Request}
    {tracker count : Nat} (hactive : roster.active? tracker = some count)
    (hapart : ¬ledger.Concerns tracker request) :
    (roster.step request).2.active? tracker = some count := by
  obtain ⟨place, htracker, rfl⟩ := Option.map_eq_some_iff.mp hactive
  have hplace := h.placed.of_tracker? htracker
  -- A count that changes is at another place.
  have hother : ∀ (change : Nat → Nat) (other : Nat), other < roster.counts.length →
      place ≠ other → (roster.counts.modify other change).getD place 0 = roster.countAt place :=
    fun change other hlt hne => by rw [Roster.countAt_modify roster other place change hlt, if_neg hne]
  cases request with
  | track policy maker =>
    simp only [Roster.step]
    split
    · rename_i other hmaker
      have hne : place ≠ other := by
        rintro rfl
        exact hapart ((h.placed.shares_iff hplace).mpr (h.placed.of_tracker? hmaker))
      exact active?_of_same htracker (hother _ other (h.placed.lt_of_tracker? hmaker) hne)
    · exact hactive
  | change guard phase =>
    simp only [Roster.step]
    split
    · exact hactive
    · exact hactive
  | drop guard =>
    simp only [Roster.step]
    split
    · rename_i member hmember
      obtain ⟨holding, hholding, hmade, _⟩ := h.matched.holding hmember
      have hne : place ≠ member.count := by
        rintro rfl
        exact hapart ⟨holding, hholding, (h.placed.shares_iff hplace).mpr hmade⟩
      have hlt := h.counted.placed member (Roster.mem_of_member? hmember)
      exact active?_of_same htracker (hother _ member.count hlt hne)
    · exact hactive
  | share source =>
    simp only [Roster.step]
    split
    · exact active?_of_same (tracker?_addTracker _ htracker) rfl
    · exact hactive
  | fresh =>
    have hcounted : roster.addCount.tracker? tracker = some place := htracker
    exact active?_of_same (tracker?_addTracker roster.counts.length hcounted)
      (Roster.countAt_addCount roster place)
  | dropTracker other =>
    simp only [Roster.step]
    split
    · have hne : other ≠ tracker := hapart
      refine active?_of_same ?_ rfl
      simp only [Roster.tracker?, List.getElem?_set_ne hne]
      exact htracker
    · exact hactive

/-- A tracker is there exactly if it was made and not dropped. -/
theorem Placed.hasTracker_iff (h : Placed ledger places roster) (tracker : Nat) :
    ledger.HasTracker tracker ↔ ∃ count, roster.active? tracker = some count := by
  rw [Ledger.HasTracker, Roster.active?, h.trackers, ← h.length]
  split
  · simp [*]
  · rename_i hthere
    by_cases hlt : tracker < places.length
    · simp [hthere, hlt]
    · simp [hlt]

/-- The entries for the ends of connections are those for the guards that are dropped. -/
theorem Kept.closings_eq (h : Kept ledger places roster) (request : Request) :
    (roster.step request).1.entries.filter (·.message = "Connection closed") =
      ledger.closings request := by
  cases request with
  | track policy tracker =>
    simp only [Roster.step]
    split <;> rfl
  | change guard phase =>
    simp only [Roster.step]
    split
    · rename_i member _
      simp only [Roster.change, Guard.change, Guard.changeEntry]
      split <;> rfl
    · rfl
  | drop guard =>
    cases hmember : roster.member? guard with
    | none =>
      simp only [Roster.step, hmember, Ledger.closings]
      split
      · rename_i hholding _
        obtain ⟨member, hthere, _⟩ := h.matched.member hholding
        rw [hmember] at hthere
        cases hthere
      · rfl
    | some member =>
      obtain ⟨holding, hholding, _, hphase⟩ := h.matched.holding hmember
      simp only [Roster.step, hmember, Roster.drop, Ledger.closings, hholding, hphase,
        h.matched.numbered guard member hmember]
      rfl
  | share tracker =>
    simp only [Roster.step]
    split <;> rfl
  | fresh => rfl
  | dropTracker tracker =>
    simp only [Roster.step]
    split <;> rfl

/-- The numbers of guards follow each other, as long as they do not run out. -/
theorem Matched.ids_eq (h : Matched ledger places roster) (hfew : ledger.ids.length < 2 ^ 64) :
    ledger.ids = List.range' 1 ledger.ids.length := by
  have hids := h.ids
  rw [List.range'_eq_map_range]
  refine hids.trans (List.map_congr_left fun guard hguard => ?_)
  have hlt := List.mem_range.mp hguard
  rw [Nat.mod_eq_of_lt (by omega), Nat.add_comm]

/-- A guard that changes its phase keeps its number. -/
theorem id_change (roster : Roster) (guard : Nat) (phase : Phase) (other : Nat) :
    ((roster.step (.change guard phase)).2.member? other).map (·.guard.id) =
      (roster.member? other).map (·.guard.id) := by
  simp only [Roster.step]
  split
  · rename_i member hmember
    by_cases hother : guard = other
    · subst hother
      have hget := Roster.getElem?_of_member? hmember
      have hlt := (List.getElem?_eq_some_iff.mp hget).1
      simp only [Roster.change, Roster.member?, List.getElem?_set_self hlt, hget, Guard.change]
      split <;> rfl
    · simp only [Roster.change, Roster.member?, List.getElem?_set_ne hother]
  · rfl

end ProxyGate.Connection
