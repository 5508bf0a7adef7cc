import ProxyGate.Listener.Admission
import Mathlib.Data.List.Basic
import Mathlib.Data.List.Induction
import Mathlib.Data.List.Range

/-!
# Slots and waiting clients

What a listener does over every sequence of requests:

* `Ordered` says where its slots and its clients are, and `ordered_of_run` that they are there after
  every run: no slot is lost, and the clients that were accepted and those that wait are all that
  have come, in the order in which they came.
* `Attempt` is an attempt to accept a client that goes on while others use the listener, and that
  claims its slot before it has a client.  `attempt_spec` says that this makes no difference: it
  completes when an attempt made just then would, with the same result, and when it is given up
  before, the listener is as if it had not been made.
-/

namespace ProxyGate.Listener

/-- The client that an answer gives. -/
def Reply.client? : Reply → Option Nat
  | .accepted _ client => some client
  | .done | .pending | .noPermit | .refused _ => none

namespace Admission

/-- A listener that has just been opened. -/
def start (limit : Nat) : Admission := { free := limit }

/-- The permits that have not been released. -/
def live (admission : Admission) : Nat := admission.permits.countP Option.isSome

/-- A slot is free and a client waits. -/
def Ready (admission : Admission) : Prop := 0 < admission.free ∧ admission.waiting ≠ []

/-- The listener after requests. -/
def after (admission : Admission) (requests : List Request) : Admission :=
  ((admission.run requests).map Prod.snd).getLastD admission

/-- The clients that requests got, in order. -/
def served (admission : Admission) (requests : List Request) : List Nat :=
  (admission.run requests).filterMap fun given => given.1.client?

variable (admission : Admission)

theorem after_cons (request : Request) (rest : List Request) :
    admission.after (request :: rest) = (admission.step request).2.after rest :=
  List.getLastD_cons

theorem after_append (front back : List Request) :
    admission.after (front ++ back) = (admission.after front).after back := by
  induction front generalizing admission with
  | nil => rfl
  | cons request rest ih => rw [List.cons_append, after_cons, after_cons, ih]

theorem served_cons (request : Request) (rest : List Request) :
    admission.served (request :: rest) =
      (admission.step request).1.client?.toList ++ (admission.step request).2.served rest := by
  have hrun : admission.run (request :: rest) =
      admission.step request :: (admission.step request).2.run rest := rfl
  rw [served, hrun, List.filterMap_cons, served]
  cases (admission.step request).1.client? <;> rfl

theorem served_append (front back : List Request) :
    admission.served (front ++ back) =
      admission.served front ++ (admission.after front).served back := by
  induction front generalizing admission with
  | nil => rfl
  | cons request rest ih =>
    rw [List.cons_append, served_cons, served_cons, ih, after_cons, List.append_assoc]

/-! ## One request -/

/-- What an attempt to accept comes to. -/
theorem accept_cases :
    (¬admission.Ready ∧ admission.accept = (.pending, admission)) ∨
      ∃ client rest, 0 < admission.free ∧ admission.waiting = client :: rest ∧
        admission.accept = (.accepted admission.permits.length client,
          { admission with
            free := admission.free - 1
            waiting := rest
            permits := admission.permits ++ [some client] }) := by
  obtain ⟨free, waiting, arrived, permits⟩ := admission
  rw [Ready, accept, claim?]
  by_cases hfree : free = 0
  · rw [if_pos hfree]
    exact .inl ⟨fun hready => absurd hfree (Nat.ne_of_gt hready.1), rfl⟩
  · rw [if_neg hfree]
    cases waiting with
    | nil =>
      refine .inl ⟨fun hready => hready.2 rfl, ?_⟩
      -- The slot that was claimed goes back.
      have hback : free - 1 + 1 = free := by omega
      simp only [take?, giveBack, hback]
    | cons client rest => exact .inr ⟨client, rest, Nat.pos_of_ne_zero hfree, rfl, rfl⟩

/-- What a release comes to. -/
theorem release_cases (permit : Nat) :
    admission.release permit = (.noPermit, admission) ∨
      ∃ client, admission.permits[permit]? = some (some client) ∧
        admission.release permit = (.done,
          { admission with
            free := admission.free + 1
            permits := admission.permits.set permit none }) := by
  rw [release, List.getD_eq_getElem?_getD]
  cases hpermit : admission.permits[permit]? with
  | none => exact .inl rfl
  | some holder =>
    cases holder with
    | none => exact .inl rfl
    | some client => exact .inr ⟨client, rfl, rfl⟩

/-- An attempt gets a client exactly when a slot is free and a client waits. -/
theorem accept_accepted_iff :
    (∃ permit client, admission.accept.1 = .accepted permit client) ↔ admission.Ready := by
  rcases admission.accept_cases with ⟨hready, haccept⟩ | ⟨client, rest, hfree, hwaiting, haccept⟩
  · rw [haccept]
    exact iff_of_false (by rintro ⟨_, _, h⟩; cases h) hready
  · rw [haccept]
    exact iff_of_true ⟨_, _, rfl⟩ ⟨hfree, by rw [hwaiting]; exact List.cons_ne_nil _ _⟩

theorem accept_of_not_ready (h : ¬admission.Ready) : admission.accept = (.pending, admission) := by
  rcases admission.accept_cases with ⟨_, haccept⟩ | ⟨client, rest, hfree, hwaiting, _⟩
  · exact haccept
  · exact absurd ⟨hfree, by rw [hwaiting]; exact List.cons_ne_nil _ _⟩ h

/-- A permit that is released was live. -/
theorem live_set_none {permits : List (Option Nat)} {permit client : Nat}
    (h : permits[permit]? = some (some client)) :
    (permits.set permit none).countP Option.isSome + 1 = permits.countP Option.isSome := by
  obtain ⟨hlt, hsame⟩ := List.getElem?_eq_some_iff.mp h
  have hpos : 0 < permits.countP Option.isSome :=
    List.countP_pos_iff.mpr ⟨some client, List.mem_of_getElem? h, rfl⟩
  rw [List.countP_set hlt, hsame]
  simp only [Option.isSome_some, Option.isSome_none, if_true, Bool.false_eq_true, if_false]
  omega

/-! ## Runs -/

/-- Where the slots and the clients of a listener are after requests that got some clients. -/
structure Ordered (limit : Nat) (requests : List Request) (served : List Nat)
    (admission : Admission) : Prop where
  slots : admission.free + admission.live = limit
  arrived : admission.arrived = requests.count .connect
  queue : served ++ admission.waiting = List.range admission.arrived

variable {admission} {limit : Nat} {requests : List Request} {clients : List Nat}

/-- A request that brings no client and leaves slots and clients alone keeps the order. -/
theorem Ordered.of_same (h : Ordered limit requests clients admission) {request : Request}
    (hrequest : request ≠ .connect) :
    Ordered limit (requests ++ [request]) (clients ++ []) admission := by
  rw [List.append_nil]
  refine ⟨h.slots, ?_, h.queue⟩
  rw [List.count_append, List.count_singleton, if_neg (by simpa using hrequest), h.arrived,
    Nat.add_zero]

/-- Every request keeps the order. -/
theorem Ordered.step (h : Ordered limit requests clients admission) (request : Request) :
    Ordered limit (requests ++ [request])
      (clients ++ (admission.step request).1.client?.toList) (admission.step request).2 := by
  have hslots := h.slots
  rw [live] at hslots
  cases request with
  | connect =>
    refine ⟨h.slots, ?_, ?_⟩
    · rw [List.count_append, ← h.arrived]
      rfl
    · show clients ++ [] ++ (admission.waiting ++ [admission.arrived]) =
        List.range (admission.arrived + 1)
      rw [List.append_nil, ← List.append_assoc, h.queue, List.range_succ]
  | accept =>
    rw [Admission.step]
    rcases admission.accept_cases with ⟨_, haccept⟩ | ⟨client, rest, hfree, hwaiting, haccept⟩
    · rw [haccept]
      exact h.of_same nofun
    · rw [haccept]
      refine ⟨?_, ?_, ?_⟩
      · simp only [live, List.countP_append, List.countP_singleton, Option.isSome_some, if_true]
        omega
      · rw [List.count_append]
        exact h.arrived
      · show clients ++ [client] ++ rest = List.range admission.arrived
        rw [List.append_assoc, List.singleton_append, ← hwaiting, h.queue]
  | release permit =>
    rw [Admission.step]
    rcases admission.release_cases permit with hrelease | ⟨client, hpermit, hrelease⟩
    · rw [hrelease]
      exact h.of_same nofun
    · rw [hrelease]
      have hlive := live_set_none hpermit
      have hkept : Ordered limit (requests ++ [.release permit]) (clients ++ []) admission :=
        h.of_same nofun
      refine ⟨?_, hkept.arrived, hkept.queue⟩
      simp only [live]
      omega
  | rebind => exact h.of_same nofun

/-- The order holds after every run. -/
theorem ordered_of_run (limit : Nat) (requests : List Request) :
    Ordered limit requests ((start limit).served requests) ((start limit).after requests) := by
  -- From the back, so that the history of a state is a run of its own.
  induction requests using List.reverseRecOn with
  | nil => exact ⟨rfl, rfl, rfl⟩
  | append_singleton requests request ih =>
    have hserved : (start limit).served (requests ++ [request]) = (start limit).served requests ++
        (((start limit).after requests).step request).1.client?.toList := by
      rw [served_append, served_cons]
      exact congrArg _ (List.append_nil _)
    rw [hserved, after_append, after_cons]
    exact ih.step request

/-! ## Attempts that go on -/

/-- An attempt to accept a client that goes on while others use the listener. -/
inductive Attempt where
  /-- It waits for a slot. -/
  | forSlot (admission : Admission)
  /-- It has claimed its slot and waits for a client. -/
  | forClient (admission : Admission)
  | complete (answer : Reply × Admission)

namespace Attempt

/-- Takes a client, if one waits, with a slot already claimed. -/
def take (claimed : Admission) : Attempt :=
  match claimed.take? with
  | none => .forClient claimed
  | some answer => .complete answer

/-- The attempt goes on as far as it can. -/
def poll : Attempt → Attempt
  | .forSlot admission =>
    match admission.claim? with
    | none => .forSlot admission
    | some claimed => take claimed
  | .forClient admission => take admission
  | .complete answer => .complete answer

/-- Somebody else uses the listener, and then the attempt goes on as far as it can. -/
def meet (attempt : Attempt) (request : Request) : Attempt :=
  match attempt with
  | .forSlot admission => poll (.forSlot (admission.step request).2)
  | .forClient admission => poll (.forClient (admission.step request).2)
  | .complete answer => .complete (answer.1, (answer.2.step request).2)

/-- The listener when the attempt is given up, with the slot back that it may have claimed. -/
def cancel : Attempt → Admission
  | .forSlot admission => admission
  | .forClient admission => admission.giveBack
  | .complete answer => answer.2

/-- An attempt that begins now and goes on while others make requests. -/
def during (admission : Admission) (others : List Request) : Attempt :=
  others.foldl meet (poll (.forSlot admission))

end Attempt

open Attempt

variable (admission)

theorem poll_of_ready (h : admission.Ready) :
    poll (.forSlot admission) = .complete admission.accept := by
  obtain ⟨hfree, hwaiting⟩ := h
  obtain ⟨client, rest, hcons⟩ := List.exists_cons_of_ne_nil hwaiting
  rw [poll, accept, claim?, if_neg (Nat.ne_of_gt hfree)]
  simp only [Attempt.take, take?, hcons]

/-- An attempt that has to wait lacks a slot, or has one and lacks a client. -/
theorem poll_of_not_ready (h : ¬admission.Ready) :
    (admission.free = 0 ∧ poll (.forSlot admission) = .forSlot admission) ∨
      (0 < admission.free ∧ admission.waiting = [] ∧
        poll (.forSlot admission) = .forClient { admission with free := admission.free - 1 }) := by
  rw [poll, claim?]
  by_cases hfree : admission.free = 0
  · rw [if_pos hfree]
    exact .inl ⟨hfree, rfl⟩
  · have hpos : 0 < admission.free := Nat.pos_of_ne_zero hfree
    have hwaiting : admission.waiting = [] := by
      by_contra hsome
      exact h ⟨hpos, hsome⟩
    rw [if_neg hfree]
    refine .inr ⟨hpos, hwaiting, ?_⟩
    simp only [Attempt.take, take?, hwaiting]

/-- Giving up an attempt that has to wait leaves no trace of it. -/
theorem cancel_poll_of_not_ready (h : ¬admission.Ready) :
    (poll (.forSlot admission)).cancel = admission := by
  rcases admission.poll_of_not_ready h with ⟨_, hpoll⟩ | ⟨hfree, _, hpoll⟩
  · rw [hpoll, cancel]
  · rw [hpoll, cancel, giveBack, Nat.sub_add_cancel hfree]

/-- Whatever others do, a slot that is claimed before is one that could be claimed behind it, as
long as no client waits. -/
theorem claim?_step (hfree : 0 < admission.free) (hwaiting : admission.waiting = [])
    (request : Request) :
    (admission.step request).2.claim? =
      some ({ admission with free := admission.free - 1 }.step request).2 := by
  obtain ⟨free, waiting, arrived, permits⟩ := admission
  dsimp only at hfree hwaiting
  subst hwaiting
  have hclaim : ∀ {permits}, claim? ⟨free, [], arrived, permits⟩ =
      some ⟨free - 1, [], arrived, permits⟩ := if_neg (Nat.ne_of_gt hfree)
  cases request with
  | connect => exact if_neg (Nat.ne_of_gt hfree)
  | accept =>
    have hnone : ∀ free, ¬Ready ⟨free, [], arrived, permits⟩ := fun _ hready => hready.2 rfl
    rw [Admission.step, Admission.step, accept_of_not_ready _ (hnone _),
      accept_of_not_ready _ (hnone _)]
    exact hclaim
  | release permit =>
    rw [Admission.step, Admission.step, release, release]
    dsimp only
    split
    · have hback : free + 1 - 1 = free - 1 + 1 := by omega
      simp only [claim?, giveBack, hback, if_neg (Nat.succ_ne_zero free)]
    · exact hclaim
  | rebind => exact hclaim

/-- For an attempt that has to wait, it is the same to have begun behind the request of another. -/
theorem meet_of_not_ready (h : ¬admission.Ready) (request : Request) :
    (poll (.forSlot admission)).meet request = poll (.forSlot (admission.step request).2) := by
  rcases admission.poll_of_not_ready h with ⟨_, hpoll⟩ | ⟨hfree, hwaiting, hpoll⟩
  · rw [hpoll, meet]
  · rw [hpoll, meet, poll, poll, admission.claim?_step hfree hwaiting request]

theorem foldl_meet_complete (answer : Reply × Admission) (others : List Request) :
    others.foldl meet (.complete answer) = .complete (answer.1, answer.2.after others) := by
  induction others generalizing answer with
  | nil => rfl
  | cons request rest ih => rw [List.foldl_cons, meet, ih, after_cons]

theorem during_of_ready (h : admission.Ready) (others : List Request) :
    during admission others =
      .complete (admission.accept.1, admission.accept.2.after others) := by
  rw [during, admission.poll_of_ready h, foldl_meet_complete]

theorem during_cons_of_not_ready (h : ¬admission.Ready) (request : Request)
    (rest : List Request) :
    during admission (request :: rest) = during (admission.step request).2 rest := by
  rw [during, List.foldl_cons, admission.meet_of_not_ready h request, during]

/-- An attempt that goes on while others make requests completes at the first moment at which a slot
is free and a client waits, as if it had been made then; when it is given up before, the listener is
as if it had not been made. -/
theorem attempt_spec (others : List Request) :
    (∃ early late, others = early ++ late ∧ (admission.after early).Ready ∧
      (∀ before, before <+: early → (admission.after before).Ready → before = early) ∧
      during admission others = .complete ((admission.after early).accept.1,
        (admission.after early).accept.2.after late)) ∨
    ((∀ before, before <+: others → ¬(admission.after before).Ready) ∧
      (during admission others).cancel = admission.after others) := by
  induction others generalizing admission with
  | nil =>
    by_cases hready : admission.Ready
    · exact .inl ⟨[], [], rfl, hready, fun before hbefore _ => List.prefix_nil.mp hbefore,
        admission.during_of_ready hready []⟩
    · refine .inr ⟨fun before hbefore => ?_, admission.cancel_poll_of_not_ready hready⟩
      rwa [List.prefix_nil.mp hbefore]
  | cons request rest ih =>
    by_cases hready : admission.Ready
    · exact .inl ⟨[], request :: rest, rfl, hready,
        fun before hbefore _ => List.prefix_nil.mp hbefore,
        admission.during_of_ready hready (request :: rest)⟩
    · rw [admission.during_cons_of_not_ready hready request rest]
      rcases ih (admission.step request).2 with
        ⟨early, late, rfl, hearly, hfirst, hduring⟩ | ⟨hnever, hcancel⟩
      · refine .inl ⟨request :: early, late, rfl, ?_, fun before hbefore hbeforeReady => ?_, ?_⟩
        · rwa [after_cons]
        · rcases List.prefix_cons_iff.mp hbefore with rfl | ⟨tail, rfl, htail⟩
          · exact absurd hbeforeReady hready
          · rw [after_cons] at hbeforeReady
            rw [hfirst tail htail hbeforeReady]
        · rwa [after_cons]
      · refine .inr ⟨fun before hbefore => ?_, by rwa [after_cons]⟩
        rcases List.prefix_cons_iff.mp hbefore with rfl | ⟨tail, rfl, htail⟩
        · exact hready
        · rw [after_cons]
          exact hnever tail htail

/-- With one slot, the second client is accepted once the first has given its permit back. -/
example : during ((start 1).after [.connect, .connect, .accept]) [.rebind, .release 0, .connect] =
    .complete (.accepted 1 1, ⟨0, [2], 3, [none, some 1]⟩) := rfl

end Admission

end ProxyGate.Listener
