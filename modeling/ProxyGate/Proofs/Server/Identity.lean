import ProxyGate.Proofs.Server.Turn

/-!
# Who is who

The clients of a server are those that have connected, in order, and each keeps its listener and its
address.  The guards that they get when they are accepted have numbers of their own, so that a
number stands for one client only.
-/

namespace ProxyGate.Server

open Connection (Guard)

variable {server next : Server} {event : Event}

/-! ## Clients -/

/-- Where a client connects and from where, in an event. -/
def Event.connect? : Event → Option (Nat × Address.Socket)
  | .connect listener peer => some (listener, peer)
  | _ => none

/-- Where clients have connected and from where. -/
def connects (events : List Event) : List (Nat × Address.Socket) :=
  events.filterMap Event.connect?

theorem connects_append (events : List Event) (event : Event) :
    connects (events ++ [event]) = connects events ++ event.connect?.toList := by
  rw [connects, List.filterMap_append, connects]
  cases hconnect : event.connect? <;> simp [hconnect]

/-- Where a client is and from where. -/
def Visit.visitor (visit : Visit) : Nat × Address.Socket :=
  (visit.listener, visit.peer)

/-- A client comes by connecting, and stays who it is. -/
theorem visitors_of_effect (h : Effect server event next) :
    next.visits.map Visit.visitor =
      server.visits.map Visit.visitor ++ event.connect?.toList := by
  have hkept : ∀ {client : Nat} {change : Visit → Visit},
      (∀ visit, (change visit).visitor = visit.visitor) →
      (server.visits.modify client change).map Visit.visitor =
        server.visits.map Visit.visitor ++ [] := by
    intro client change hchange
    rw [List.append_nil]
    exact map_modify_of_same fun visit _ => hchange visit
  cases h with
  | connect => exact List.map_append
  | claim | failAccept | trigger | dropCoordinator | leave => exact (List.append_nil _).symm
  | arrive | accept | more | reject | handOver | use | finish | dropGuard | giveBack =>
    exact hkept fun _ => rfl
  | stop =>
    change List.map _ (List.map _ _) = _ ++ []
    rw [List.append_nil, List.map_map]
    refine List.map_congr_left fun visit _ => ?_
    rw [Function.comp_apply]
    split <;> rfl

/-- The clients of a server are those that have connected. -/
theorem visitors_of_run {start : Server} {events : List Event} (hvisits : start.visits = [])
    (h : start.run? events = some server) : server.visits.map Visit.visitor = connects events := by
  refine run_induction (p := fun events server =>
    server.visits.map Visit.visitor = connects events) ?_ ?_ h
  · rw [hvisits]
    rfl
  · intro events event server next _ ih heffect
    rw [visitors_of_effect heffect, ih, connects_append]

/-! ## Guards -/

/-- The guard of a client. -/
def Stage.guard? : Stage → Option Guard
  | .sniffing guard _ | .serving guard _ _ | .over guard _ _ _ => some guard
  | .waiting _ | .refused => none

/-- The number of a client's guard. -/
def guardId? (server : Server) (client : Nat) : Option Nat :=
  (server.visits[client]?.bind (·.stage.guard?)).map Guard.id

theorem id_change (guard : Guard) (phase : Connection.Phase) :
    (guard.change phase).1.id = guard.id := by
  rw [Guard.change]
  split <;> rfl

theorem id_changeAll (guard : Guard) (phases : List Connection.Phase) :
    (changeAll guard phases).1.id = guard.id := by
  induction phases generalizing guard with
  | nil => rfl
  | cons phase rest ih => exact (ih _).trans (id_change guard phase)

/-- A client keeps the number of its guard, and gets one by being accepted. -/
theorem id_of_turn {client : Nat} {visit later : Visit} {new : List Handover}
    (h : Turn server client visit event later new) :
    later.stage.guard?.map Guard.id = visit.stage.guard?.map Guard.id ∨
      ∃ listener, event = .accept listener ∧ server.firstWaiting? listener = some client ∧
        later.stage.guard?.map Guard.id = some server.nextId := by
  cases h with
  | rest => exact .inl rfl
  | arrive =>
    refine .inl ?_
    cases visit.stage <;> rfl
  | accept _ hfirst => exact .inr ⟨_, rfl, hfirst, rfl⟩
  | more _ hstage | use hstage | finish hstage | dropGuard hstage | giveBack hstage
  | refuse hstage =>
    rw [hstage]
    exact .inl rfl
  | reject _ hstage =>
    rw [hstage]
    exact .inl (congrArg some (id_change _ _))
  | handOver _ hstage =>
    rw [hstage]
    exact .inl (congrArg some (id_changeAll _ _))

theorem guardId?_of_effect (h : Effect server event next) {client id : Nat}
    (hid : next.guardId? client = some id) :
    server.guardId? client = some id ∨
      ∃ listener, event = .accept listener ∧ server.firstWaiting? listener = some client ∧
        id = server.nextId := by
  cases hvisit : server.visits[client]? with
  | some visit =>
    obtain ⟨later, new, hturn, hlater, _⟩ := turns_of_effect h hvisit
    rw [guardId?, hlater, Option.bind_some] at hid
    rw [guardId?, hvisit, Option.bind_some]
    rcases id_of_turn hturn with hsame | ⟨listener, hevent, hfirst, hnew⟩
    · exact .inl (hsame ▸ hid)
    · rw [hid, Option.some.injEq] at hnew
      exact .inr ⟨listener, hevent, hfirst, hnew⟩
  | none =>
    cases hlater : next.visits[client]? with
    | none =>
      rw [guardId?, hlater] at hid
      cases hid
    | some later =>
      obtain ⟨_, _, _, _, rfl⟩ := new_of_effect h hvisit hlater
      rw [guardId?, hlater] at hid
      cases hid

/-- The numbers of the guards are in use once, and new ones are free. -/
structure Numbered (server : Server) : Prop where
  below : ∀ client id, server.guardId? client = some id → id < server.nextId
  own : ∀ client other id, server.guardId? client = some id → server.guardId? other = some id →
    client = other

theorem nextId_of_effect (h : Effect server event next) :
    server.nextId ≤ next.nextId ∧
      ∀ listener, event = .accept listener → next.nextId = server.nextId + 1 := by
  cases h with
  | accept => exact ⟨Nat.le_succ _, fun _ _ => rfl⟩
  | connect | arrive | claim | failAccept | more | reject | handOver | use | finish | dropGuard
  | giveBack | trigger | dropCoordinator | stop | leave => exact ⟨Nat.le_refl _, nofun⟩

theorem numbered_of_effect (hnumbered : Numbered server) (h : Effect server event next) :
    Numbered next := by
  obtain ⟨hle, hnext⟩ := nextId_of_effect h
  refine ⟨fun client id hid => ?_, fun client other id hid hother => ?_⟩
  · rcases guardId?_of_effect h hid with hbefore | ⟨listener, hevent, _, rfl⟩
    · exact Nat.lt_of_lt_of_le (hnumbered.below client id hbefore) hle
    · rw [hnext listener hevent]
      exact Nat.lt_succ_self _
  · -- An old number is below a new one, and one event accepts one client.
    rcases guardId?_of_effect h hid with hbefore | ⟨listener, hevent, hfirst, hnew⟩ <;>
      rcases guardId?_of_effect h hother with hbefore' | ⟨listener', hevent', hfirst', hnew'⟩
    · exact hnumbered.own client other id hbefore hbefore'
    · have := hnumbered.below client id hbefore
      omega
    · have := hnumbered.below other id hbefore'
      omega
    · rw [hevent, Event.accept.injEq] at hevent'
      subst hevent'
      rw [hfirst, Option.some.injEq] at hfirst'
      exact hfirst'

theorem numbered_of_run {start : Server} {events : List Event} (hvisits : start.visits = [])
    (h : start.run? events = some server) : Numbered server := by
  refine run_induction (p := fun _ server => Numbered server) ?_ ?_ h
  · have hnone : ∀ client, start.guardId? client = none := by
      intro client
      rw [guardId?, hvisits]
      rfl
    exact ⟨fun client id hid => by simp [hnone] at hid,
      fun client other id hid => by simp [hnone] at hid⟩
  · exact fun _ _ _ _ _ hnumbered heffect => numbered_of_effect hnumbered heffect

end ProxyGate.Server
