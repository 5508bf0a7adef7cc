import ProxyGate.Proofs.Connection.Counts
import Mathlib.Data.List.Chain
import Mathlib.Logic.Relation

/-!
# The phases of a guard

There are four changes of phase, `Phase.Edge`.  Whatever a guard is asked for, in whatever order,
and whatever is asked of other guards and of trackers meanwhile, it makes these changes only:

* `obeys_step` is what one request does to the guard, to the rest of the roster and to the log, and
  `member?_step` what any request leaves of a guard.
* `Roster.phases` are the phases that a guard goes through, and `isChain_phases` says that each of
  them is the one before it or one edge further.
* `countP_isMove_le` counts the requests that were granted, against `Phase.ahead`, the edges that a
  phase has in front of it.

`guard_walks` is what all this says about a guard from its making on.
-/

namespace ProxyGate.Connection

open Relation (ReflTransGen)

/-! ## The edges -/

namespace Phase

/-- The changes of phase that there are. -/
inductive Edge : Phase → Phase → Prop where
  | served : Edge .unchecked .streaming
  | parsed : Edge .awaitingHeader .headerParsed
  | refused : Edge .awaitingHeader .failed
  | handed : Edge .headerParsed .streaming

/-- A guard allows exactly the edges. -/
theorem canBecome_iff {first second : Phase} : first.canBecome second = true ↔ Edge first second := by
  constructor
  · intro h
    unfold canBecome at h
    split at h
    · exact .served
    · exact .parsed
    · exact .refused
    · exact .handed
    · cases h
  · intro h
    cases h <;> rfl

/-- The most edges that can still be taken. -/
def ahead : Phase → Nat
  | .awaitingHeader => 2
  | .unchecked | .headerParsed => 1
  | .streaming | .failed => 0

theorem Edge.ahead_lt {first second : Phase} (h : Edge first second) :
    second.ahead < first.ahead := by
  cases h <;> decide

theorem ahead_initial_le (policy : Policy) : (initial policy).ahead ≤ 2 := by
  cases policy <;> decide

/-- Phases that no edge leaves. -/
def IsLast (phase : Phase) : Prop := phase = .streaming ∨ phase = .failed

theorem IsLast.not_edge {first second : Phase} (h : first.IsLast) : ¬Edge first second := by
  intro hedge
  rcases h with rfl | rfl <;> cases hedge

/-- Phases that no edge leaves are never left. -/
theorem IsLast.eq_of_reaches {first second : Phase} (h : first.IsLast)
    (hreach : ReflTransGen Edge first second) : second = first := by
  rcases hreach.cases_head with hsame | ⟨_, hedge, _⟩
  · exact hsame.symm
  · exact absurd hedge h.not_edge

theorem eq_of_reaches_of_unchecked {phase : Phase} (h : ReflTransGen Edge .unchecked phase) :
    phase = .unchecked ∨ phase = .streaming := by
  rcases h.cases_head with hsame | ⟨next, hedge, hrest⟩
  · exact .inl hsame.symm
  · cases hedge
    exact .inr (IsLast.eq_of_reaches (.inl rfl) hrest)

/-- No edge leads to the phase that a guard without a demanded header begins in. -/
theorem not_reaches_unchecked {phase : Phase} (h : ReflTransGen Edge phase .unchecked) :
    phase = .unchecked := by
  rcases h.cases_tail with hsame | ⟨_, _, hedge⟩
  · exact hsame.symm
  · cases hedge

/-- A phase and the one that is seen next: the same, or one edge further. -/
def Follows (first second : Phase) : Prop := first = second ∨ Edge first second

theorem Follows.reaches {first second : Phase} (h : Follows first second) :
    ReflTransGen Edge first second := by
  rcases h with rfl | hedge
  · exact .refl
  · exact .single hedge

/-- Whatever comes later in a course of phases is reached by edges. -/
theorem pairwise_of_isChain {course : List Phase} (h : course.IsChain Follows) :
    course.Pairwise (ReflTransGen Edge) :=
  (h.imp fun _ _ => Follows.reaches).pairwise

/-- Every phase of a course is reached from the first one. -/
theorem reaches_of_mem {course : List Phase} (h : course.IsChain Follows) {first phase : Phase}
    (hfirst : course.head? = some first) (hmem : phase ∈ course) :
    ReflTransGen Edge first phase := by
  cases course with
  | nil => cases hfirst
  | cons start rest =>
    cases hfirst
    rcases List.mem_cons.mp hmem with rfl | hrest
    · exact .refl
    · exact List.rel_of_pairwise_cons (pairwise_of_isChain h) hrest

/-- A phase in the middle of a course has been entered by an edge, unless the course began in it. -/
theorem entered_of_isChain {front back : List Phase} {phase : Phase}
    (h : (front ++ phase :: back).IsChain Follows) :
    (∀ earlier ∈ front, earlier = phase) ∨ ∃ earlier ∈ front, Edge earlier phase := by
  induction front using List.reverseRecOn generalizing back with
  | nil => exact .inl fun earlier hmem => absurd hmem List.not_mem_nil
  | append_singleton front last ih =>
    rw [List.append_assoc, List.singleton_append] at h
    have hlast : Follows last phase := (List.isChain_append_cons_cons.mp h).2.1
    rcases hlast with rfl | hedge
    · -- The course stood still here, so the edge, if there is one, is further in front.
      rcases ih h with hsame | ⟨earlier, hmem, hedge⟩
      · refine .inl fun earlier hmem => ?_
        rcases List.mem_append.mp hmem with hfront | hlast
        · exact hsame earlier hfront
        · exact List.mem_singleton.mp hlast
      · exact .inr ⟨earlier, List.mem_append_left _ hmem, hedge⟩
    · exact .inr ⟨last, List.mem_append_right _ (List.mem_singleton_self last), hedge⟩

/-- A course that begins with the wait for a header comes to streaming by way of the header. -/
theorem parsed_of_streaming {before after : List Phase}
    (h : (before ++ .streaming :: after).IsChain Follows)
    (hfirst : (before ++ .streaming :: after).head? = some .awaitingHeader) :
    .headerParsed ∈ before ∧ .failed ∉ before := by
  constructor
  · rcases entered_of_isChain h with hsame | ⟨earlier, hmem, hedge⟩
    · cases before with
      | nil => cases hfirst
      | cons first rest =>
        cases hfirst
        cases hsame _ List.mem_cons_self
    · cases hedge with
      | served =>
        have hreach := reaches_of_mem h hfirst (List.mem_append_left _ hmem)
        cases not_reaches_unchecked hreach
      | handed => exact hmem
  · intro hfailed
    have hreach := (List.pairwise_append.mp (pairwise_of_isChain h)).2.2 _ hfailed _
      List.mem_cons_self
    cases IsLast.eq_of_reaches (.inr rfl) hreach

end Phase

/-! ## One request -/

variable {roster : Roster} {place : Nat} {member : Member}

/-- What a guard does when it is asked for a phase: the answer, the entry in the log, and the roster
after it. -/
inductive Obeys (roster : Roster) (place : Nat) (member : Member) (phase : Phase) :
    Response × Roster → Prop where
  /-- There is an edge: only the phase of the guard changes. -/
  | moves (edge : Phase.Edge member.guard.phase phase) :
      Obeys roster place member phase
        (⟨.phase phase, [⟨.trace, "Connection state",
          [("connection_id", "conn-" ++ String.ofList (Text.decimal member.guard.id)),
            ("from", member.guard.phase.name), ("to", phase.name)]⟩]⟩,
        { roster with
          members := roster.members.set place (some ⟨⟨member.guard.id, phase⟩, member.count⟩) })
  /-- There is none: nothing changes. -/
  | stays (none : ¬Phase.Edge member.guard.phase phase) :
      Obeys roster place member phase
        (⟨.phase member.guard.phase, [⟨.warn, "Invalid connection state transition",
          [("connection_id", "conn-" ++ String.ofList (Text.decimal member.guard.id)),
            ("from", member.guard.phase.name), ("to", phase.name)]⟩]⟩, roster)

/-- A guard that is held takes the edges and nothing else. -/
theorem obeys_step (hmember : roster.member? place = some member) (phase : Phase) :
    Obeys roster place member phase (roster.step (.change place phase)) := by
  have hget := Roster.getElem?_of_member? hmember
  simp only [Roster.step, hmember, Roster.change, Guard.change, Guard.changeEntry]
  by_cases hedge : Phase.Edge member.guard.phase phase
  · rw [if_pos (Phase.canBecome_iff.mpr hedge), if_pos (Phase.canBecome_iff.mpr hedge)]
    exact .moves hedge
  · have hblocked := mt Phase.canBecome_iff.mp hedge
    rw [if_neg hblocked, if_neg hblocked]
    -- What is put back is what is there already.
    have hsame : roster.members.set place (some member) = roster.members := by
      obtain ⟨hlt, hthere⟩ := List.getElem?_eq_some_iff.mp hget
      rw [← hthere, List.set_getElem_self]
    rw [hsame]
    exact .stays hedge

/-- A guard takes the phase it is asked for or stays as it is. -/
theorem change_cases (guard : Guard) (phase : Phase) :
    (guard.phase.canBecome phase = true ∧ (guard.change phase).1 = ⟨guard.id, phase⟩) ∨
      (guard.phase.canBecome phase = false ∧ (guard.change phase).1 = guard) := by
  by_cases hallowed : guard.phase.canBecome phase = true
  · exact .inl ⟨hallowed, if_pos hallowed⟩
  · exact .inr ⟨Bool.eq_false_iff.mpr hallowed, if_neg hallowed⟩

/-- What a request leaves of a guard. -/
def Request.leaves (request : Request) (place : Nat) (member : Member) : Option Member :=
  match request with
  | .change guard phase =>
    if guard = place then some { member with guard := (member.guard.change phase).1 }
    else some member
  | .drop guard => if guard = place then none else some member
  | .track _ _ | .share _ | .fresh | .dropTracker _ => some member

/-- Guards are numbered for ever. -/
theorem length_members_step (roster : Roster) (request : Request) :
    roster.members.length ≤ (roster.step request).2.members.length := by
  cases request with
  | track policy tracker =>
    simp only [Roster.step]
    split
    · simp [Roster.track]
    · exact Nat.le_refl _
  | change guard phase | drop guard =>
    simp only [Roster.step]
    split
    · simp [Roster.change, Roster.drop]
    · exact Nat.le_refl _
  | share tracker | dropTracker tracker =>
    simp only [Roster.step]
    split <;> exact Nat.le_refl _
  | fresh => exact Nat.le_refl _

/-- A request to a guard that is not there leaves every guard as it is. -/
theorem bind_of_absent {guard : Nat} (habsent : roster.member? guard = none)
    (leaves : Member → Option Member) :
    (roster.member? place).bind (fun member => if guard = place then leaves member else some member)
      = roster.member? place := by
  by_cases hguard : guard = place
  · subst hguard
    rw [habsent]
    rfl
  · simp only [if_neg hguard]
    exact Option.bind_fun_some _

/-- What is put in the place of a guard is seen there and nowhere else. -/
theorem join_set_of_held (hplace : place < roster.members.length) {guard : Nat} {found : Member}
    (hfound : roster.member? guard = some found) (leaves : Member → Option Member) :
    ((roster.members.set guard (leaves found))[place]?).join =
      (roster.member? place).bind
        (fun member => if guard = place then leaves member else some member) := by
  by_cases hguard : guard = place
  · subst hguard
    rw [List.getElem?_set_self hplace, hfound, Option.bind_some, if_pos rfl]
    rfl
  · simp only [List.getElem?_set_ne hguard, if_neg hguard]
    exact (Option.bind_fun_some _).symm

/-- A guard that was made is after a request what the request leaves of it. -/
theorem member?_step (hplace : place < roster.members.length) (request : Request) :
    (roster.step request).2.member? place = (roster.member? place).bind (request.leaves place) := by
  have hrest : (roster.member? place).bind some = roster.member? place := Option.bind_fun_some _
  cases request with
  | track policy tracker =>
    simp only [Roster.step]
    split
    · simp only [Roster.member?, Roster.track, List.getElem?_append_left hplace]
      exact hrest.symm
    · exact hrest.symm
  | change guard phase =>
    cases hfound : roster.member? guard with
    | none =>
      simp only [Roster.step, hfound]
      exact (bind_of_absent hfound _).symm
    | some found =>
      simp only [Roster.step, hfound]
      exact join_set_of_held hplace hfound
        fun member => some { member with guard := (member.guard.change phase).1 }
  | drop guard =>
    cases hfound : roster.member? guard with
    | none =>
      simp only [Roster.step, hfound]
      exact (bind_of_absent hfound fun _ => none).symm
    | some found =>
      simp only [Roster.step, hfound]
      exact join_set_of_held hplace hfound fun _ => none
  | share tracker | dropTracker tracker =>
    simp only [Roster.step]
    split <;> exact hrest.symm
  | fresh => exact hrest.symm

/-- A guard that a request leaves has its number and its count still, and a phase that follows. -/
theorem follows_of_leaves {request : Request} {later : Member}
    (h : request.leaves place member = some later) :
    later.guard.id = member.guard.id ∧ later.count = member.count ∧
      member.guard.phase.Follows later.guard.phase := by
  fun_cases Request.leaves request place member with
  | case1 phase =>
    rw [Request.leaves, if_pos rfl] at h
    cases h
    rcases change_cases member.guard phase with ⟨hallowed, hchange⟩ | ⟨_, hchange⟩
    · rw [hchange]
      exact ⟨rfl, rfl, .inr (Phase.canBecome_iff.mp hallowed)⟩
    · rw [hchange]
      exact ⟨rfl, rfl, .inl rfl⟩
  | case2 guard phase hother =>
    rw [Request.leaves, if_neg hother] at h
    cases h
    exact ⟨rfl, rfl, .inl rfl⟩
  | case3 =>
    rw [Request.leaves, if_pos rfl] at h
    cases h
  | case4 guard hother =>
    rw [Request.leaves, if_neg hother] at h
    cases h
    exact ⟨rfl, rfl, .inl rfl⟩
  | case5 | case6 | case7 | case8 =>
    cases h
    exact ⟨rfl, rfl, .inl rfl⟩

/-- A request that a guard was moved by, as the log has it. -/
def isMove (place : Nat) : Request × Response → Bool
  | (.change guard _, response) =>
    guard = place && response.entries.any fun entry => entry.level = .trace
  | _ => false

theorem isMove_change (hmember : roster.member? place = some member) (phase : Phase) :
    isMove place (.change place phase, (roster.step (.change place phase)).1) =
      member.guard.phase.canBecome phase := by
  have hstep := obeys_step hmember phase
  generalize roster.step (.change place phase) = answer at hstep
  cases hstep with
  | moves edge => simp [isMove, Phase.canBecome_iff.mpr edge]
  | stays none => simp [isMove, Bool.eq_false_iff.mpr (mt Phase.canBecome_iff.mp none)]

namespace Roster

/-- The phase of a guard, unless it was dropped. -/
def phase? (roster : Roster) (place : Nat) : Option Phase :=
  (roster.member? place).map (·.guard.phase)

/-- The most moves that a guard can still make. -/
def ahead (roster : Roster) (place : Nat) : Nat := (roster.phase? place).elim 0 Phase.ahead

/-- A move uses up what is ahead of a guard, and nothing adds to it. -/
theorem isMove_add_ahead_step (hplace : place < roster.members.length) (request : Request) :
    (isMove place (request, (roster.step request).1)).toNat + (roster.step request).2.ahead place
      ≤ roster.ahead place := by
  have hnext := member?_step hplace request
  cases hmember : roster.member? place with
  | none =>
    -- Nobody answers for a guard that was dropped.
    have hidle : isMove place (request, (roster.step request).1) = false := by
      cases request with
      | change guard phase =>
        unfold isMove
        by_cases hguard : guard = place
        · simp [Roster.step, hguard, hmember]
        · simp [hguard]
      | track | drop | share | fresh | dropTracker => rfl
    rw [hmember, Option.bind_none] at hnext
    rw [hidle, ahead, phase?, hnext]
    exact Nat.zero_le _
  | some member =>
    rw [hmember, Option.bind_some] at hnext
    have hnow : roster.ahead place = member.guard.phase.ahead := by
      rw [ahead, phase?, hmember]
      rfl
    rw [hnow, ahead, phase?, hnext]
    fun_cases Request.leaves request place member with
    | case1 phase =>
      rw [isMove_change hmember]
      rcases change_cases member.guard phase with ⟨hallowed, hchange⟩ | ⟨hblocked, hchange⟩
      · rw [hchange, hallowed]
        have hlt := (Phase.canBecome_iff.mp hallowed).ahead_lt
        show 1 + phase.ahead ≤ member.guard.phase.ahead
        omega
      · rw [hchange, hblocked]
        exact Nat.le_of_eq (Nat.zero_add _)
    | case2 guard phase hother =>
      rw [isMove, decide_eq_false hother, Bool.false_and]
      exact Nat.le_of_eq (Nat.zero_add _)
    | case3 => exact Nat.zero_le _
    | case4 | case5 | case6 | case7 | case8 => exact Nat.le_of_eq (Nat.zero_add _)

/-- The phases of a guard before and after a request follow each other. -/
theorem follows_step (hplace : place < roster.members.length) {request : Request}
    {first second : Phase} (hfirst : roster.phase? place = some first)
    (hsecond : (roster.step request).2.phase? place = some second) : first.Follows second := by
  obtain ⟨member, hmember, rfl⟩ := Option.map_eq_some_iff.mp hfirst
  obtain ⟨later, hlater, rfl⟩ := Option.map_eq_some_iff.mp hsecond
  rw [member?_step hplace, hmember, Option.bind_some] at hlater
  exact (follows_of_leaves hlater).2.2

/-- A guard that was dropped has no phase any more. -/
theorem phase?_step_of_none (hplace : place < roster.members.length) (request : Request)
    (hnone : roster.phase? place = none) : (roster.step request).2.phase? place = none := by
  rw [phase?, Option.map_eq_none_iff] at hnone ⊢
  rw [member?_step hplace, hnone, Option.bind_none]

/-- A guard is made under the count of its tracker, behind all others. -/
theorem track_of_step {start : Roster} {policy : Policy} {tracker : Nat} {guard : Guard}
    {entries : List Log.Entry}
    (h : roster.step (.track policy tracker) = (⟨.tracked guard, entries⟩, start)) :
    ∃ count, roster.tracker? tracker = some count ∧ guard.phase = .initial policy ∧
      start.member? roster.members.length = some ⟨guard, count⟩ := by
  unfold step at h
  dsimp only at h
  cases htracker : roster.tracker? tracker with
  | none =>
    rw [htracker] at h
    cases h
  | some count =>
    rw [htracker] at h
    cases h
    refine ⟨count, rfl, rfl, ?_⟩
    simp [member?]

/-! ## Runs -/

/-- The phases that a guard is in over a run: now and after each request, for as long as it is
held. -/
def phases (roster : Roster) (place : Nat) (requests : List Request) : List Phase :=
  (roster :: (roster.run requests).map Prod.snd).filterMap (·.phase? place)

theorem phases_nil (roster : Roster) (place : Nat) :
    roster.phases place [] = (roster.phase? place).toList := by
  cases hphase : roster.phase? place <;> simp [phases, run, hphase]

theorem phases_cons (roster : Roster) (place : Nat) (request : Request) (rest : List Request) :
    roster.phases place (request :: rest) =
      (roster.phase? place).toList ++ (roster.step request).2.phases place rest := by
  cases hphase : roster.phase? place <;> simp [phases, run, hphase]

theorem phases_of_none (hplace : place < roster.members.length)
    (hnone : roster.phase? place = none) (requests : List Request) :
    roster.phases place requests = [] := by
  induction requests generalizing roster with
  | nil =>
    rw [phases_nil, hnone]
    rfl
  | cons request rest ih =>
    have hlater : place < (roster.step request).2.members.length :=
      Nat.lt_of_lt_of_le hplace (length_members_step roster request)
    rw [phases_cons, hnone, ih hlater (phase?_step_of_none hplace request hnone)]
    rfl

/-- The first phase of a run is the one that the guard is in. -/
theorem head?_phases (hplace : place < roster.members.length) (requests : List Request) :
    (roster.phases place requests).head? = roster.phase? place := by
  cases hphase : roster.phase? place with
  | none =>
    rw [phases_of_none hplace hphase]
    rfl
  | some phase =>
    cases requests with
    | nil =>
      rw [phases_nil, hphase]
      rfl
    | cons request rest =>
      rw [phases_cons, hphase]
      rfl

/-- The last phase of a run is the one that the guard is left in. -/
theorem getLast?_phases {requests : List Request} {phase : Phase}
    (h : (lastState roster (roster.run requests)).phase? place = some phase) :
    (roster.phases place requests).getLast? = some phase := by
  induction requests generalizing roster with
  | nil =>
    have hphase : roster.phase? place = some phase := h
    rw [phases_nil, hphase]
    rfl
  | cons request rest ih =>
    rw [run, lastState_cons] at h
    rw [phases_cons, List.getLast?_append, ih h]
    rfl

/-- The phases of a run follow each other, whatever is asked for. -/
theorem isChain_phases (hplace : place < roster.members.length) (requests : List Request) :
    (roster.phases place requests).IsChain Phase.Follows := by
  induction requests generalizing roster with
  | nil =>
    rw [phases_nil]
    cases roster.phase? place with
    | none => exact .nil
    | some phase => exact .singleton phase
  | cons request rest ih =>
    have hlater : place < (roster.step request).2.members.length :=
      Nat.lt_of_lt_of_le hplace (length_members_step roster request)
    rw [phases_cons]
    cases hphase : roster.phase? place with
    | none => exact ih hlater
    | some phase =>
      rw [Option.toList_some, List.singleton_append]
      refine List.isChain_cons.mpr ⟨fun next hnext => ?_, ih hlater⟩
      rw [head?_phases hlater] at hnext
      exact follows_step hplace hphase hnext

/-- No more requests are granted to a guard than there are moves ahead of it. -/
theorem countP_isMove_le (hplace : place < roster.members.length) (requests : List Request) :
    (transcript requests (roster.run requests)).countP (isMove place) ≤ roster.ahead place := by
  induction requests generalizing roster with
  | nil => exact Nat.zero_le _
  | cons request rest ih =>
    have hlater : place < (roster.step request).2.members.length :=
      Nat.lt_of_lt_of_le hplace (length_members_step roster request)
    have hstep := isMove_add_ahead_step hplace request
    have hrest := ih hlater
    have hsplit : transcript (request :: rest) (roster.run (request :: rest)) =
        (request, (roster.step request).1) ::
          transcript rest ((roster.step request).2.run rest) := rfl
    rw [hsplit, List.countP_cons]
    cases hmove : isMove place (request, (roster.step request).1) with
    | false =>
      rw [hmove] at hstep
      simp only [Bool.false_eq_true, if_false, Bool.toNat_false] at hstep ⊢
      omega
    | true =>
      rw [hmove] at hstep
      simp only [if_true, Bool.toNat_true] at hstep ⊢
      omega

/-- A guard stays where it is, with its number and its count, until it is dropped. -/
theorem member?_run (hmember : roster.member? place = some member) (requests : List Request) :
    let now := lastState roster (roster.run requests)
    place < now.members.length ∧
      ((.drop place ∈ requests ∧ now.member? place = none) ∨
        (.drop place ∉ requests ∧ ∃ later, now.member? place = some later ∧
          later.guard.id = member.guard.id ∧ later.count = member.count)) := by
  refine stepwise_run.induction
    (motive := fun requests _ now => place < now.members.length ∧
      ((.drop place ∈ requests ∧ now.member? place = none) ∨
        (.drop place ∉ requests ∧ ∃ later, now.member? place = some later ∧
          later.guard.id = member.guard.id ∧ later.count = member.count))) ?_ ?_ requests
  · have hlt := (List.getElem?_eq_some_iff.mp (getElem?_of_member? hmember)).1
    exact ⟨hlt, .inr ⟨List.not_mem_nil, member, hmember, rfl, rfl⟩⟩
  · intro requests past now request ⟨hplace, hheld⟩
    refine ⟨Nat.lt_of_lt_of_le hplace (length_members_step now request), ?_⟩
    have hnext := member?_step hplace request
    rcases hheld with ⟨hdrop, hnone⟩ | ⟨hkept, later, hlater, hid, hcount⟩
    · rw [hnone, Option.bind_none] at hnext
      exact .inl ⟨List.mem_append_left _ hdrop, hnext⟩
    · rw [hlater, Option.bind_some] at hnext
      by_cases hrequest : request = .drop place
      · subst hrequest
        rw [Request.leaves, if_pos rfl] at hnext
        exact .inl ⟨List.mem_append_right _ (List.mem_singleton_self _), hnext⟩
      · refine .inr ⟨?_, ?_⟩
        · rw [List.mem_append, List.mem_singleton]
          rintro (hbefore | hnow)
          · exact hkept hbefore
          · exact hrequest hnow.symm
        · obtain ⟨next, hleaves⟩ : ∃ next, request.leaves place later = some next := by
            fun_cases Request.leaves request place later with
            | case3 => exact absurd rfl hrequest
            | _ => exact ⟨_, rfl⟩
          obtain ⟨hsame, hunder, _⟩ := follows_of_leaves hleaves
          exact ⟨next, hnext.trans hleaves, hsame.trans hid, hunder.trans hcount⟩

end Roster

/-- **Every guard walks along the edges**, from its making on and whatever is asked of it, of other
guards and of trackers.

* It begins under its tracker's count, in the phase of its policy.
* Until it is dropped it is there, with its number and its count, in the last of its phases.
* Each request for a phase takes an edge, which changes nothing but the phase and leaves one trace
  in the log, or it changes nothing at all and leaves one warning, with the number of the guard and
  the phases it was about.
* No more than two of all requests take an edge.
* Streaming and failure are never left.
* Where a header is demanded, it is streaming only after the header was parsed and never after a
  failure.
* Where none is, it is unchecked or streaming. -/
theorem guard_walks {roster start : Roster} {policy : Policy} {tracker : Nat} {guard : Guard}
    {entries : List Log.Entry}
    (h : roster.step (.track policy tracker) = (⟨.tracked guard, entries⟩, start))
    (requests : List Request) :
    let place := roster.members.length
    let now := lastState start (start.run requests)
    let phases := start.phases place requests
    (∃ count, roster.tracker? tracker = some count ∧
      start.member? place = some ⟨guard, count⟩ ∧ guard.phase = .initial policy ∧
      ((∃ member, now.member? place = some member) ↔ .drop place ∉ requests) ∧
      ∀ member, now.member? place = some member → member.guard.id = guard.id ∧
        member.count = count ∧ phases.getLast? = some member.guard.phase) ∧
    (∀ member phase, now.member? place = some member →
      Obeys now place member phase (now.step (.change place phase))) ∧
    (transcript requests (start.run requests)).countP (isMove place) ≤ 2 ∧
    phases.Pairwise (fun earlier later => earlier = .streaming ∨ earlier = .failed →
      later = earlier) ∧
    (policy = .required → ∀ before after, phases = before ++ .streaming :: after →
      .headerParsed ∈ before ∧ .failed ∉ before) ∧
    (policy = .disabled → ∀ phase ∈ phases, phase = .unchecked ∨ phase = .streaming) := by
  intro place now phases
  obtain ⟨count, htracker, hguard, hstart⟩ := Roster.track_of_step h
  have hplace : place < start.members.length :=
    (List.getElem?_eq_some_iff.mp (Roster.getElem?_of_member? hstart)).1
  have hchain : phases.IsChain Phase.Follows := Roster.isChain_phases hplace requests
  have hfirst : phases.head? = some (.initial policy) := by
    rw [Roster.head?_phases hplace, Roster.phase?, hstart, Option.map_some, hguard]
  have hkeeps := (Roster.member?_run hstart requests).2
  refine ⟨⟨count, htracker, hstart, hguard, ?_, ?_⟩, fun _ phase hheld => obeys_step hheld phase,
    ?_, ?_, ?_, ?_⟩
  · rcases hkeeps with ⟨hdrop, hnone⟩ | ⟨hkept, later, hlater, _⟩
    · exact iff_of_false (fun ⟨member, hheld⟩ => by cases hnone.symm.trans hheld)
        fun hkept => hkept hdrop
    · exact iff_of_true ⟨later, hlater⟩ hkept
  · intro member hheld
    rcases hkeeps with ⟨_, hnone⟩ | ⟨_, later, hlater, hid, hcount⟩
    · cases hnone.symm.trans hheld
    · cases hlater.symm.trans hheld
      refine ⟨hid, hcount, Roster.getLast?_phases ?_⟩
      rw [Roster.phase?, hheld, Option.map_some]
  · have hahead : start.ahead place = (Phase.initial policy).ahead := by
      rw [Roster.ahead, Roster.phase?, hstart, Option.map_some, hguard, Option.elim_some]
    have hmoves := Roster.countP_isMove_le hplace requests
    have hinitial := Phase.ahead_initial_le policy
    omega
  · exact (Phase.pairwise_of_isChain hchain).imp fun hreach hlast =>
      Phase.IsLast.eq_of_reaches hlast hreach
  · intro hpolicy before after hsplit
    rw [hpolicy] at hfirst
    rw [hsplit] at hchain hfirst
    exact Phase.parsed_of_streaming hchain hfirst
  · intro hpolicy phase hmem
    rw [hpolicy] at hfirst
    exact Phase.eq_of_reaches_of_unchecked (Phase.reaches_of_mem hchain hfirst hmem)

/-- Requests that contradict each other, between two guards. -/
def contradictory : List Request :=
  [.change 0 .streaming, .track .disabled 0, .change 0 .headerParsed, .change 1 .failed,
    .change 0 .failed, .dropTracker 0, .change 0 .streaming, .change 1 .streaming,
    .change 0 .awaitingHeader]

/-- A guard that is asked for every phase, in the wrong order too, comes to streaming by way of the
header, and stays there. -/
theorem guard_walks_contradictory :
    let start := (({} : Roster).step (.track .required 0)).2
    let now := lastState start (start.run contradictory)
    now.member? 0 = some ⟨⟨1, .streaming⟩, 0⟩ ∧
      (transcript contradictory (start.run contradictory)).countP (isMove 0) ≤ 2 ∧
      start.phases 0 contradictory = [.awaitingHeader, .awaitingHeader, .awaitingHeader] ++
        [.headerParsed, .headerParsed, .headerParsed, .headerParsed] ++
        [.streaming, .streaming, .streaming] ∧
      Obeys now 0 ⟨⟨1, .streaming⟩, 0⟩ .failed (now.step (.change 0 .failed)) := by
  intro start now
  obtain ⟨_, hobeys, hmoves, _, _⟩ :=
    @guard_walks {} start .required 0 ⟨1, .awaitingHeader⟩ [] rfl contradictory
  have hmember : now.member? 0 = some ⟨⟨1, .streaming⟩, 0⟩ := by decide
  exact ⟨hmember, hmoves, by decide, hobeys _ .failed hmember⟩

end ProxyGate.Connection
