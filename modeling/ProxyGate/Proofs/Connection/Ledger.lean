import ProxyGate.Proofs.Connection.Counts
import Mathlib.Logic.Relation

/-!
# The books on trackers and guards

`Ledger` is what the answers of a roster tell of its trackers and guards: how each tracker was made,
which tracker made each guard, and the phase that each guard was last said to be in.  Trackers share
a count, `Ledger.Shares`, if a chain of trackers made from each other leads from one to the other, in
whatever direction.

`Placed` says where the trackers of a ledger have their counts, so that those share that have one
place, and `Matched` that its guards are those of the roster.  `kept_of_run` says that both hold after
every run.
-/

namespace ProxyGate.Connection

/-- A guard that is held, as the answers tell of it. -/
structure Holding where
  /-- The tracker that made it. -/
  tracker : Nat
  /-- The phase that it was last said to be in. -/
  phase : Phase

/-- What the answers tell of trackers and guards. -/
structure Ledger where
  /-- For each tracker the one whose count it was made to share, if any. -/
  origins : List (Option Nat) := [none]
  /-- The trackers that were dropped. -/
  gone : List Nat := []
  /-- The guards in the order of tracking; one that was dropped leaves its place empty. -/
  held : List (Option Holding) := []
  /-- The numbers of all guards, in the same order. -/
  ids : List Nat := []

namespace Ledger

/-- The ledger after a request and its answer. -/
def note (ledger : Ledger) : Request × Response → Ledger
  | (.track _ tracker, ⟨.tracked guard, _⟩) =>
    { ledger with
      held := ledger.held ++ [some ⟨tracker, guard.phase⟩]
      ids := ledger.ids ++ [guard.id] }
  | (.change guard _, ⟨.phase phase, _⟩) =>
    { ledger with
      held := ledger.held.modify guard fun holding => holding.map fun held => { held with phase } }
  | (.drop guard, ⟨.done, _⟩) => { ledger with held := ledger.held.set guard none }
  | (.share tracker, ⟨.done, _⟩) => { ledger with origins := ledger.origins ++ [some tracker] }
  | (.fresh, _) => { ledger with origins := ledger.origins ++ [none] }
  | (.dropTracker tracker, ⟨.done, _⟩) => { ledger with gone := tracker :: ledger.gone }
  | _ => ledger

/-- The ledger of a transcript. -/
def ofTranscript (past : List (Request × Response)) : Ledger := past.foldl note {}

/-- A tracker was made and not dropped. -/
def HasTracker (ledger : Ledger) (tracker : Nat) : Prop :=
  tracker < ledger.origins.length ∧ tracker ∉ ledger.gone

/-- Trackers that have one count, since one was made from the other or both from others that do. -/
def Shares (ledger : Ledger) : Nat → Nat → Prop :=
  Relation.EqvGen fun one other => ledger.origins[other]? = some (some one)

open Classical in
/-- The number of guards held that trackers made which share a tracker's count. -/
noncomputable def openUnder (ledger : Ledger) (tracker : Nat) : Nat :=
  ledger.held.countP (·.any fun holding => ledger.Shares holding.tracker tracker)

/-- A request that has to do with the count of a tracker, or with the tracker. -/
def Concerns (ledger : Ledger) (tracker : Nat) : Request → Prop
  | .track _ maker => ledger.Shares maker tracker
  | .drop guard =>
    ∃ holding, ledger.held[guard]? = some (some holding) ∧ ledger.Shares holding.tracker tracker
  | .dropTracker other => other = tracker
  | .change _ _ | .share _ | .fresh => False

/-- The entries for the ends of connections that a request leaves in the log. -/
def closings (ledger : Ledger) : Request → List Log.Entry
  | .drop guard =>
    match ledger.held[guard]?, ledger.ids[guard]? with
    | some (some holding), some id => [⟨.trace, "Connection closed",
        [("connection_id", Origin.idText id), ("state", holding.phase.name)]⟩]
    | _, _ => []
  | _ => []

theorem ofTranscript_concat (past : List (Request × Response)) (given : Request × Response) :
    ofTranscript (past ++ [given]) = (ofTranscript past).note given := by
  rw [ofTranscript, List.foldl_append]
  rfl

end Ledger

/-! ## Trackers -/

/-- The trackers of a ledger with the place of each one's count, also of those dropped. -/
structure Placed (ledger : Ledger) (places : List Nat) (roster : Roster) : Prop where
  length : places.length = ledger.origins.length
  size : roster.trackers.length = ledger.origins.length
  known : ∀ tracker ∈ ledger.gone, tracker < ledger.origins.length
  trackers : ∀ tracker,
    roster.tracker? tracker = if tracker ∈ ledger.gone then none else places[tracker]?
  bound : ∀ place ∈ places, place < roster.counts.length
  shared : ∀ one other : Nat, ledger.origins[other]? = some (some one) → places[one]? = places[other]?
  joined : ∀ (one other place : Nat), places[one]? = some place → places[other]? = some place →
    ledger.Shares one other

variable {ledger : Ledger} {places : List Nat} {roster : Roster}

/-- Trackers that share have one place. -/
theorem Placed.place_eq (h : Placed ledger places roster) {one other : Nat}
    (hshares : ledger.Shares one other) : places[one]? = places[other]? := by
  induction hshares with
  | rel one other horigin => exact h.shared one other horigin
  | refl => rfl
  | symm _ _ _ ih => exact ih.symm
  | trans _ _ _ _ _ ih ih' => exact ih.trans ih'

/-- Trackers share exactly if they have one place. -/
theorem Placed.shares_iff (h : Placed ledger places roster) {one other place : Nat}
    (hplace : places[other]? = some place) :
    ledger.Shares one other ↔ places[one]? = some place :=
  ⟨fun hshares => (h.place_eq hshares).trans hplace, fun hone => h.joined one other place hone hplace⟩

theorem Ledger.Shares.append {one other : Nat} (h : ledger.Shares one other)
    (origin : Option Nat) :
    ({ ledger with origins := ledger.origins ++ [origin] } : Ledger).Shares one other := by
  refine Relation.EqvGen.mono (fun one other horigin => ?_) _ _ h
  have hlt := (List.getElem?_eq_some_iff.mp horigin).1
  rwa [List.getElem?_append_left hlt]

/-- A tracker is added under a place that is that of the tracker it comes from, or under a new one. -/
theorem Placed.addTracker (h : Placed ledger places roster) {next : Roster} {place : Nat}
    {origin : Option Nat} (hcounts : roster.counts.length ≤ next.counts.length)
    (hplace : place < next.counts.length)
    (htrackers : next.trackers = roster.trackers ++ [some place])
    (horigin : (∃ one, origin = some one ∧ places[one]? = some place) ∨
      origin = none ∧ place ∉ places) :
    Placed { ledger with origins := ledger.origins ++ [origin] } (places ++ [place]) next where
  length := by simp [h.length]
  size := by simp [htrackers, h.size]
  known := by
    intro tracker hgone
    have := h.known tracker hgone
    simp only [List.length_append]
    omega
  trackers := by
    intro tracker
    have hold := h.trackers tracker
    have hsame : roster.trackers.length = places.length := h.size.trans h.length.symm
    have hnew : places.length ∉ ledger.gone := fun hgone =>
      Nat.lt_irrefl _ (h.length ▸ h.known _ hgone)
    simp only [Roster.tracker?, htrackers, getElem?_concat, hsame] at hold ⊢
    by_cases htracker : tracker = places.length
    · subst htracker
      rw [if_pos rfl, if_pos rfl, if_neg hnew]
      rfl
    · rw [if_neg htracker, if_neg htracker]
      exact hold
  bound := by
    intro other hother
    rcases List.mem_append.mp hother with hold | hnew
    · exact Nat.lt_of_lt_of_le (h.bound other hold) hcounts
    · rw [List.mem_singleton.mp hnew]
      exact hplace
  shared := by
    intro one other hone
    have hnew : ∀ {tracker found : Nat}, places[tracker]? = some found → tracker ≠ places.length :=
      fun hfound => Nat.ne_of_lt (List.getElem?_eq_some_iff.mp hfound).1
    rw [getElem?_concat] at hone
    rw [getElem?_concat, getElem?_concat]
    by_cases hother : other = ledger.origins.length
    · rw [if_pos hother, Option.some.injEq] at hone
      rcases horigin with ⟨source, rfl, hsource⟩ | ⟨rfl, _⟩
      · cases hone
        rw [if_neg (hnew hsource), if_pos (hother.trans h.length.symm), hsource]
      · cases hone
    · rw [if_neg hother] at hone
      have hsame := h.shared one other hone
      have hlt : other < places.length := h.length ▸ (List.getElem?_eq_some_iff.mp hone).1
      rw [List.getElem?_eq_getElem hlt] at hsame
      rw [if_neg (hnew hsame), if_neg (Nat.ne_of_lt hlt), hsame, List.getElem?_eq_getElem hlt]
  joined := by
    -- A new tracker and an old one share if their places are one, since it is not a new place then.
    have hnew : ∀ other, places[other]? = some place →
        ({ ledger with origins := ledger.origins ++ [origin] } : Ledger).Shares
          places.length other := by
      intro other hother
      rcases horigin with ⟨source, rfl, hsource⟩ | ⟨_, hnone⟩
      · have hjoined := (h.joined source other place hsource hother).append (some source)
        refine .trans _ _ _ (.symm _ _ (.rel _ _ ?_)) hjoined
        rw [getElem?_concat, if_pos h.length]
      · exact absurd (List.mem_of_getElem? hother) hnone
    intro one other found hone hother
    rw [getElem?_concat] at hone hother
    by_cases hone' : one = places.length <;> by_cases hother' : other = places.length
    · rw [hone', hother']
      exact .refl _
    · rw [if_pos hone'] at hone
      rw [if_neg hother'] at hother
      cases hone
      rw [hone']
      exact hnew other hother
    · rw [if_neg hone'] at hone
      rw [if_pos hother'] at hother
      cases hother
      rw [hother']
      exact .symm _ _ (hnew one hone)
    · rw [if_neg hone'] at hone
      rw [if_neg hother'] at hother
      exact (h.joined one other found hone hother).append origin

theorem Placed.of_same (h : Placed ledger places roster) {after : Ledger} {next : Roster}
    (horigins : after.origins = ledger.origins) (hgone : after.gone = ledger.gone)
    (htrackers : next.trackers = roster.trackers)
    (hcounts : next.counts.length = roster.counts.length) : Placed after places next where
  length := by rw [horigins, h.length]
  size := by rw [horigins, htrackers, h.size]
  known := by
    rw [horigins, hgone]
    exact h.known
  trackers := by
    rw [hgone]
    simp only [Roster.tracker?, htrackers]
    exact h.trackers
  bound := by
    rw [hcounts]
    exact h.bound
  shared := by
    rw [horigins]
    exact h.shared
  joined := by
    rw [Ledger.Shares, horigins]
    exact h.joined

theorem Placed.dropTracker (h : Placed ledger places roster) {tracker count : Nat}
    (htracker : roster.tracker? tracker = some count) :
    Placed { ledger with gone := tracker :: ledger.gone } places
      { roster with trackers := roster.trackers.set tracker none } where
  length := h.length
  size := by
    simp only [List.length_set]
    exact h.size
  known := by
    intro other hother
    rcases List.mem_cons.mp hother with rfl | hold
    · rw [Roster.tracker?, Option.join_eq_some_iff] at htracker
      rw [← h.size]
      exact (List.getElem?_eq_some_iff.mp htracker).1
    · exact h.known other hold
  trackers := by
    intro other
    have hold := h.trackers other
    simp only [Roster.tracker?, List.getElem?_set, List.mem_cons] at hold ⊢
    by_cases hsame : tracker = other
    · subst hsame
      rw [if_pos rfl, if_pos (Or.inl rfl)]
      split <;> rfl
    · rw [if_neg hsame, hold]
      simp [Ne.symm hsame]
  bound := h.bound
  shared := h.shared
  joined := h.joined

theorem placed_start : Placed {} [0] {} where
  length := rfl
  size := rfl
  known := by simp
  trackers := by
    intro tracker
    cases tracker <;> rfl
  bound := by simp
  shared := by
    intro one other h
    rcases other with _ | other <;> cases h
  joined := by
    intro one other place hone hother
    have hzero : ∀ {tracker : Nat}, [0][tracker]? = some place → tracker = 0 := by
      intro tracker h
      have := (List.getElem?_eq_some_iff.mp h).1
      simpa using this
    rw [hzero hone, hzero hother]
    exact .refl _

/-! ## Guards -/

/-- A guard as the ledger has it: the place of its count and its phase. -/
def Holding.view (places : List Nat) (holding : Holding) : Option Nat × Phase :=
  (places[holding.tracker]?, holding.phase)

/-- A guard as the roster has it. -/
def Member.view (member : Member) : Option Nat × Phase := (some member.count, member.guard.phase)

/-- The guards of a ledger are those of a roster. -/
structure Matched (ledger : Ledger) (places : List Nat) (roster : Roster) : Prop where
  held : ledger.held.map (Option.map (Holding.view places)) =
    roster.members.map (Option.map Member.view)
  length : ledger.ids.length = ledger.held.length
  ids : ledger.ids = (List.range ledger.ids.length).map fun guard => (guard + 1) % 2 ^ 64
  next : roster.nextId = (ledger.ids.length + 1) % 2 ^ 64
  numbered : ∀ guard member, roster.member? guard = some member →
    ledger.ids[guard]? = some member.guard.id

theorem Matched.length_members (h : Matched ledger places roster) :
    ledger.held.length = roster.members.length := by
  have hlength := congrArg List.length h.held
  rwa [List.length_map, List.length_map] at hlength

/-- A guard of the roster is held. -/
theorem Matched.holding (h : Matched ledger places roster) {guard : Nat} {member : Member}
    (hmember : roster.member? guard = some member) :
    ∃ holding, ledger.held[guard]? = some (some holding) ∧
      places[holding.tracker]? = some member.count ∧ holding.phase = member.guard.phase := by
  have hview := congrArg (·[guard]?) h.held
  simp only [List.getElem?_map, Roster.getElem?_of_member? hmember, Option.map_some] at hview
  obtain ⟨entry, hentry, hsame⟩ := Option.map_eq_some_iff.mp hview
  obtain ⟨holding, rfl, heq⟩ := Option.map_eq_some_iff.mp hsame
  exact ⟨holding, hentry, congrArg Prod.fst heq, congrArg Prod.snd heq⟩

/-- A guard that is held is one of the roster. -/
theorem Matched.member (h : Matched ledger places roster) {guard : Nat} {holding : Holding}
    (hholding : ledger.held[guard]? = some (some holding)) :
    ∃ member, roster.member? guard = some member ∧ holding.view places = member.view := by
  have hview := congrArg (·[guard]?) h.held
  simp only [List.getElem?_map, hholding, Option.map_some] at hview
  obtain ⟨entry, hentry, hsame⟩ := Option.map_eq_some_iff.mp hview.symm
  obtain ⟨member, rfl, heq⟩ := Option.map_eq_some_iff.mp hsame
  exact ⟨member, by rw [Roster.member?, hentry]; rfl, heq.symm⟩

theorem Matched.of_same (h : Matched ledger places roster) {after : Ledger} {next : Roster}
    (hheld : after.held = ledger.held) (hids : after.ids = ledger.ids)
    (hmembers : next.members = roster.members) (hnext : next.next = roster.next) :
    Matched after places next where
  held := by rw [hheld, hmembers, h.held]
  length := by rw [hheld, hids, h.length]
  ids := by
    rw [hids]
    exact h.ids
  next := by
    rw [Roster.nextId, hnext, hids]
    exact h.next
  numbered := by
    rw [hids]
    simp only [Roster.member?, hmembers]
    exact h.numbered

theorem Matched.track (h : Matched ledger places roster) (policy : Policy) {tracker count : Nat}
    (hplace : places[tracker]? = some count) :
    Matched (ledger.note (.track policy tracker, (roster.track policy count).1)) places
      (roster.track policy count).2 where
  held := by
    simp only [Roster.track, Ledger.note, List.map_append, h.held]
    simp only [List.map_cons, List.map_nil, Option.map_some, Holding.view, Member.view, hplace]
  length := by
    simp only [Roster.track, Ledger.note, List.length_append, h.length]
    rfl
  ids := by
    simp only [Roster.track, Ledger.note, List.length_append, List.length_singleton,
      List.range_succ, List.map_append, List.map_singleton]
    rw [← h.ids, Guard.start, h.next]
  next := by
    have hnext := h.next
    simp only [Roster.nextId, Roster.track, Ledger.note, List.length_append,
      List.length_singleton, UInt64.toNat_add] at hnext ⊢
    rw [hnext]
    simp [Nat.add_mod]
  numbered := by
    intro guard member hmember
    have hlength : ledger.ids.length = roster.members.length := h.length.trans h.length_members
    simp only [Roster.track, Ledger.note, Roster.member?, getElem?_concat, hlength] at hmember ⊢
    split at hmember
    · rename_i hnew
      cases hmember
      rw [if_pos hnew]
    · rename_i hold
      rw [if_neg hold]
      exact h.numbered guard member hmember

theorem Matched.change (h : Matched ledger places roster) {guard : Nat} {member : Member}
    (phase : Phase) (hmember : roster.member? guard = some member) :
    Matched (ledger.note (.change guard phase, (roster.change guard member phase).1)) places
      (roster.change guard member phase).2 where
  held := by
    obtain ⟨holding, hholding, hplace, _⟩ := h.holding hmember
    refine List.ext_getElem? fun other => ?_
    have hview := congrArg (·[other]?) h.held
    simp only [Roster.change, Ledger.note, List.getElem?_map, List.getElem?_modify,
      List.getElem?_set] at hview ⊢
    by_cases hother : guard = other
    · subst hother
      have hlt := (List.getElem?_eq_some_iff.mp (Roster.getElem?_of_member? hmember)).1
      simp [hholding, hlt, Holding.view, Member.view, hplace]
    · simp only [if_neg hother, hview, id_map']
  length := by
    simp only [Roster.change, Ledger.note, List.length_modify]
    exact h.length
  ids := h.ids
  next := h.next
  numbered := by
    intro other found hfound
    simp only [Roster.change, Ledger.note, Roster.member?, List.getElem?_set] at hfound ⊢
    split at hfound
    · rename_i hother
      subst hother
      split at hfound
      · cases hfound
        rw [h.numbered guard member hmember, Guard.change]
        split <;> rfl
      · cases hfound
    · exact h.numbered other found hfound

theorem Matched.drop (h : Matched ledger places roster) {guard : Nat} (member : Member) :
    Matched (ledger.note (.drop guard, (roster.drop guard member).1)) places
      (roster.drop guard member).2 where
  held := by
    simp only [Roster.drop, Ledger.note, List.map_set, h.held]
    rfl
  length := by
    simp only [Roster.drop, Ledger.note, List.length_set]
    exact h.length
  ids := h.ids
  next := h.next
  numbered := by
    intro other found hfound
    simp only [Roster.drop, Ledger.note, Roster.member?, List.getElem?_set] at hfound ⊢
    split at hfound
    · split at hfound <;> cases hfound
    · exact h.numbered other found hfound

/-- A tracker that is added has made no guard yet. -/
theorem Matched.addTracker (h : Matched ledger places roster) {next : Roster} (place : Nat)
    (origin : Option Nat) (hmembers : next.members = roster.members)
    (hnext : next.next = roster.next) :
    Matched { ledger with origins := ledger.origins ++ [origin] } (places ++ [place]) next where
  held := by
    rw [hmembers, ← h.held]
    refine List.map_congr_left fun entry hentry => ?_
    cases entry with
    | none => rfl
    | some holding =>
      obtain ⟨guard, hguard⟩ := List.getElem?_of_mem hentry
      obtain ⟨member, _, hview⟩ := h.member hguard
      have hplace : places[holding.tracker]? = some member.count := congrArg Prod.fst hview
      have hlt := (List.getElem?_eq_some_iff.mp hplace).1
      simp only [Option.map_some, Holding.view, List.getElem?_append_left hlt]
  length := h.length
  ids := h.ids
  next := by
    rw [Roster.nextId, hnext]
    exact h.next
  numbered := by
    simp only [Roster.member?, hmembers]
    exact h.numbered

theorem matched_start : Matched {} [0] {} where
  held := rfl
  length := rfl
  ids := rfl
  next := by decide
  numbered := by simp [Roster.member?]

/-! ## Runs -/

/-- What every run keeps between the ledger and the roster. -/
structure Kept (ledger : Ledger) (places : List Nat) (roster : Roster) : Prop where
  placed : Placed ledger places roster
  matched : Matched ledger places roster
  counted : roster.Counted

/-- The place of a tracker of the roster. -/
theorem Placed.of_tracker? (h : Placed ledger places roster) {tracker count : Nat}
    (htracker : roster.tracker? tracker = some count) : places[tracker]? = some count := by
  rw [h.trackers] at htracker
  split at htracker
  · cases htracker
  · exact htracker

theorem Placed.lt_of_tracker? (h : Placed ledger places roster) {tracker count : Nat}
    (htracker : roster.tracker? tracker = some count) : count < roster.counts.length :=
  h.bound count (List.mem_of_getElem? (h.of_tracker? htracker))

/-- One request keeps the ledger and the roster together. -/
theorem Kept.step (h : Kept ledger places roster) (request : Request) :
    ∃ places, Kept (ledger.note (request, (roster.step request).1)) places
      (roster.step request).2 := by
  have hcounted := h.counted.step (fun _ _ => h.placed.lt_of_tracker?) request
  cases request with
  | track policy tracker =>
    cases htracker : roster.tracker? tracker with
    | none =>
      simp only [Roster.step, htracker] at hcounted ⊢
      exact ⟨places, h⟩
    | some count =>
      simp only [Roster.step, htracker] at hcounted ⊢
      exact ⟨places, h.placed.of_same rfl rfl rfl (List.length_modify ..),
        h.matched.track policy (h.placed.of_tracker? htracker), hcounted⟩
  | change guard phase =>
    cases hmember : roster.member? guard with
    | none =>
      simp only [Roster.step, hmember] at hcounted ⊢
      exact ⟨places, h⟩
    | some member =>
      simp only [Roster.step, hmember] at hcounted ⊢
      exact ⟨places, h.placed.of_same rfl rfl rfl rfl, h.matched.change phase hmember, hcounted⟩
  | drop guard =>
    cases hmember : roster.member? guard with
    | none =>
      simp only [Roster.step, hmember] at hcounted ⊢
      exact ⟨places, h⟩
    | some member =>
      simp only [Roster.step, hmember] at hcounted ⊢
      exact ⟨places, h.placed.of_same rfl rfl rfl (List.length_modify ..), h.matched.drop member,
        hcounted⟩
  | share tracker =>
    cases htracker : roster.tracker? tracker with
    | none =>
      simp only [Roster.step, htracker] at hcounted ⊢
      exact ⟨places, h⟩
    | some count =>
      simp only [Roster.step, htracker] at hcounted ⊢
      refine ⟨places ++ [count], h.placed.addTracker (Nat.le_refl _)
        (h.placed.lt_of_tracker? htracker) rfl (.inl ⟨tracker, rfl, ?_⟩),
        h.matched.addTracker count (some tracker) rfl rfl, hcounted⟩
      exact h.placed.of_tracker? htracker
  | fresh =>
    refine ⟨places ++ [roster.counts.length], h.placed.addTracker ?_ ?_ rfl (.inr ⟨rfl, ?_⟩),
      h.matched.addTracker _ none rfl rfl, hcounted⟩
    · simp [Roster.step, Roster.addTracker, Roster.addCount]
    · simp [Roster.step, Roster.addTracker, Roster.addCount]
    · exact fun hmem => Nat.lt_irrefl _ (h.placed.bound _ hmem)
  | dropTracker tracker =>
    cases htracker : roster.tracker? tracker with
    | none =>
      simp only [Roster.step, htracker] at hcounted ⊢
      exact ⟨places, h⟩
    | some count =>
      simp only [Roster.step, htracker] at hcounted ⊢
      exact ⟨places, h.placed.dropTracker htracker, h.matched.of_same rfl rfl rfl rfl, hcounted⟩

/-- After every run the ledger and the roster go together. -/
theorem kept_of_run (requests : List Request) :
    ∃ places, Kept (.ofTranscript (transcript requests (({} : Roster).run requests))) places
      (lastState {} (({} : Roster).run requests)) := by
  refine Roster.stepwise_run.induction
    (motive := fun _ past roster => ∃ places, Kept (.ofTranscript past) places roster)
    ⟨[0], placed_start, matched_start, Roster.counted_start⟩ ?_ requests
  rintro _ past roster request ⟨places, h⟩
  rw [Ledger.ofTranscript_concat]
  exact h.step request

end ProxyGate.Connection
