import ProxyGate.Proofs.Server.History
import ProxyGate.Proofs.Server.Identity

/-!
# A listener whose loop has stopped

An accept loop can stop once the wait for the shutdown is over, and does not start again.
`closed_of_run` says what a listener does from then on: nothing is accepted or tracked there, and
nobody can come to it any more.  `closed_of_returned` says that a server is at its end only when all
its loops have stopped, and `isOver_iff_of_run` what ends the wait.
-/

namespace ProxyGate.Server

variable {start server next last : Server} {event : Event} {events : List Event}
  {client listener : Nat} {visit : Visit} {listening : Listening}

/-! ## Loops that run -/

theorem Listening.runs_of_claim? {claimed : Listening} (h : listening.claim? = some claimed) :
    listening.loop ≠ .stopped :=
  ne_of_eq_of_ne (Option.ite_none_right_eq_some.mp h).1.1 nofun

theorem Listening.runs_of_pass? {passed : Listening} (h : listening.pass? = some passed) :
    listening.loop ≠ .stopped :=
  ne_of_eq_of_ne (Option.ite_none_right_eq_some.mp h).1 nofun

theorem Listening.runs_of_giveUp? {given : Listening} (h : listening.giveUp? = some given) :
    listening.loop ≠ .stopped :=
  ne_of_eq_of_ne (Option.ite_none_right_eq_some.mp h).1 nofun

theorem Listening.loop_of_stop? {stopped : Listening} (h : listening.stop? = some stopped) :
    listening.loop ≠ .stopped ∧ stopped.loop = .stopped := by
  rw [stop?] at h
  split at h <;> cases h <;> simp [*]

theorem isOpen_iff : server.isOpen listener = true ↔
    ∃ listening, server.listeners[listener]? = some listening ∧ listening.loop ≠ .stopped := by
  rw [isOpen]
  cases server.listeners[listener]? <;> simp

/-- A listener that is closed stays closed when another one changes. -/
theorem stays_closed_of_set (hlistening : server.listeners[listener]? = some listening)
    (hloop : listening.loop ≠ .stopped) {changed : Listening}
    (hlisteners : next.listeners = server.listeners.set listener changed) (other : Nat)
    (hclosed : server.isOpen other = false) : next.isOpen other = false := by
  have hne : listener ≠ other := by
    rintro rfl
    rw [isOpen_iff.mpr ⟨listening, hlistening, hloop⟩] at hclosed
    cases hclosed
  rw [isOpen, hlisteners, List.getElem?_set_ne hne, ← isOpen]
  exact hclosed

/-- A slot that goes back leaves the loops alone. -/
theorem isOpen_of_giveBack {changed : Nat}
    (hlisteners : next.listeners = server.listeners.modify changed Listening.takeBack)
    (listener : Nat) : next.isOpen listener = server.isOpen listener := by
  rw [isOpen, isOpen, hlisteners, List.getElem?_modify]
  by_cases hsame : changed = listener <;> cases server.listeners[listener]? <;>
    simp [hsame, Listening.takeBack]

/-- A listener whose loop has stopped is closed. -/
theorem closed_of_stopped (hlistening : server.listeners[listener]? = some listening)
    (hloop : listening.loop = .stopped) : server.isOpen listener = false := by
  rw [isOpen, hlistening]
  exact decide_eq_false (not_not_intro hloop)

theorem closed_of_stop {stopped : Listening}
    (hlistening : server.listeners[listener]? = some listening)
    (hstop : listening.stop? = some stopped)
    (hlisteners : next.listeners = server.listeners.set listener stopped) :
    next.isOpen listener = false := by
  have hlt := (List.getElem?_eq_some_iff.mp hlistening).1
  have hstopped : next.listeners[listener]? = some stopped := by
    rw [hlisteners, List.getElem?_set_self hlt]
  exact closed_of_stopped hstopped (Listening.loop_of_stop? hstop).2

/-! ## Loops that have stopped -/

/-- The listener at which something happens in an event. -/
def Event.listener? : Event → Option Nat
  | .connect listener _ | .claim listener | .accept listener | .failAccept listener _
  | .stop listener => some listener
  | .arrive _ _ | .look _ | .use _ _ | .finish _ _ | .dropGuard _ | .giveBack _ | .trigger
  | .dropCoordinator | .leave => none

/-- What happens at an open listener happens at no closed one, and opens none. -/
theorem closed_of_open {place : Nat} (hopen : server.isOpen place = true)
    (hevent : event.listener? = some place) (hclosed : server.isOpen listener = false) :
    event.listener? ≠ some listener := by
  rw [hevent]
  rintro ⟨⟩
  rw [hopen] at hclosed
  cases hclosed

theorem closed_of_set {place : Nat} {changed : Listening}
    (hevent : event.listener? = some place)
    (hlistening : server.listeners[place]? = some listening) (hloop : listening.loop ≠ .stopped)
    (hlisteners : next.listeners = server.listeners.set place changed)
    (hclosed : server.isOpen listener = false) :
    event.listener? ≠ some listener ∧ next.isOpen listener = false :=
  ⟨closed_of_open (isOpen_iff.mpr ⟨listening, hlistening, hloop⟩) hevent hclosed,
    stays_closed_of_set hlistening hloop hlisteners listener hclosed⟩

/-- Nothing happens at a closed listener, and it stays closed. -/
theorem closed_of_effect (h : Effect server event next) (hclosed : server.isOpen listener = false) :
    event.listener? ≠ some listener ∧ next.isOpen listener = false := by
  cases h with
  | connect hopen => exact ⟨closed_of_open hopen rfl hclosed, hclosed⟩
  | claim hlistening hclaim =>
    exact closed_of_set rfl hlistening (Listening.runs_of_claim? hclaim) rfl hclosed
  | accept hlistening _ _ _ hpass =>
    exact closed_of_set rfl hlistening (Listening.runs_of_pass? hpass) rfl hclosed
  | failAccept hlistening hgive =>
    exact closed_of_set rfl hlistening (Listening.runs_of_giveUp? hgive) rfl hclosed
  | stop hlistening hstop =>
    exact closed_of_set rfl hlistening (Listening.loop_of_stop? hstop).1 rfl hclosed
  | giveBack => exact ⟨nofun, (isOpen_of_giveBack rfl listener).trans hclosed⟩
  | arrive | more | reject | handOver | use | finish | dropGuard | trigger | dropCoordinator
  | leave => exact ⟨nofun, hclosed⟩

/-- The clients of a closed listener are those that were there, and none of them is accepted. -/
theorem guardId?_of_closed (h : Effect server event next) (hclosed : server.isOpen listener = false)
    (hvisit : next.visits[client]? = some visit) (hlistener : visit.listener = listener) :
    ∃ before, server.visits[client]? = some before ∧ before.listener = listener ∧
      next.guardId? client = server.guardId? client := by
  obtain ⟨hevent, _⟩ := closed_of_effect h hclosed
  cases hbefore : server.visits[client]? with
  | none =>
    obtain ⟨place, peer, rfl, _, rfl⟩ := new_of_effect h hbefore hvisit
    exact absurd (congrArg some hlistener) hevent
  | some before =>
    obtain ⟨_, _, hturn, hlater, _⟩ := turns_of_effect h hbefore
    cases hvisit.symm.trans hlater
    have hplace : before.listener = listener := hturn.same.1.symm.trans hlistener
    refine ⟨before, rfl, hplace, ?_⟩
    rcases id_of_turn hturn with hsame | ⟨place, rfl, hfirst, _⟩
    · rw [guardId?, guardId?, hvisit, hbefore]
      exact hsame
    · rw [← listener_of_firstWaiting? hfirst hbefore, hplace] at hevent
      exact absurd rfl hevent

/-- Once a loop has stopped, its listener accepts and tracks nobody, whatever happens. -/
theorem closed_of_run (hclosed : server.isOpen listener = false)
    (hrun : server.run? events = some last) :
    last.isOpen listener = false ∧ (∀ event ∈ events, event.listener? ≠ some listener) ∧
      ∀ client visit, last.visits[client]? = some visit → visit.listener = listener →
        last.guardId? client = server.guardId? client := by
  refine run_induction (p := fun events last => last.isOpen listener = false ∧
    (∀ event ∈ events, event.listener? ≠ some listener) ∧
      ∀ client visit, last.visits[client]? = some visit → visit.listener = listener →
        last.guardId? client = server.guardId? client) ⟨hclosed, nofun, fun _ _ _ _ => rfl⟩ ?_ hrun
  rintro events event before next _ ⟨hbefore, hevents, hguards⟩ heffect
  obtain ⟨hevent, hnext⟩ := closed_of_effect heffect hbefore
  refine ⟨hnext, ?_, fun client visit hvisit hlistener => ?_⟩
  · rw [List.forall_mem_append, List.forall_mem_singleton]
    exact ⟨hevents, hevent⟩
  · obtain ⟨same, hsame, hplace, hguard⟩ := guardId?_of_closed heffect hbefore hvisit hlistener
    exact hguard.trans (hguards client same hsame hplace)

/-! ## The end of a server -/

theorem forall_stopped_iff : (∀ listening ∈ server.listeners, listening.loop = .stopped) ↔
    ∀ listener, server.isOpen listener = false := by
  simp only [← Bool.not_eq_true, isOpen_iff, List.mem_iff_getElem?]
  constructor
  · rintro h listener ⟨listening, hlistening, hloop⟩
    exact hloop (h listening ⟨listener, hlistening⟩)
  · rintro h listening ⟨listener, hlistening⟩
    by_contra hloop
    exact h listener ⟨listening, hlistening, hloop⟩

/-- A server comes to its end by one event only. -/
theorem returned_of_effect (h : Effect server event next) (hreturned : next.returned = true) :
    server.returned = true ∨ ∀ listening ∈ server.listeners, listening.loop = .stopped := by
  cases h with
  | leave _ hstopped => exact .inr hstopped
  | connect | arrive | claim | accept | failAccept | more | reject | handOver | use | finish
  | dropGuard | giveBack | trigger | dropCoordinator | stop => exact .inl hreturned

/-- A server that has come to its end has no loop that runs. -/
theorem closed_of_returned (hstart : start.returned = false)
    (hrun : start.run? events = some server) (hreturned : server.returned = true) :
    ∀ listening ∈ server.listeners, listening.loop = .stopped := by
  rw [forall_stopped_iff]
  refine run_induction (p := fun _ server => server.returned = true →
    ∀ listener, server.isOpen listener = false) ?_ ?_ hrun hreturned
  · intro h
    rw [hstart] at h
    cases h
  · intro events event server next _ ih heffect hnext listener
    refine (closed_of_effect heffect ?_).2
    rcases returned_of_effect heffect hnext with hbefore | hstopped
    · exact ih hbefore listener
    · exact forall_stopped_iff.mp hstopped listener

/-- An event that ends the wait for a shutdown. -/
def Event.isSignal : Event → Bool
  | .trigger | .dropCoordinator => true
  | _ => false

theorem isOver_of_effect (h : Effect server event next) :
    next.signal.isOver = (server.signal.isOver || event.isSignal) := by
  cases h with
  | trigger hcoordinated =>
    simp only [Shutdown.step, if_pos hcoordinated]
    exact (Bool.or_true _).symm
  | dropCoordinator hcoordinated =>
    simp only [Shutdown.step, if_pos hcoordinated]
    exact (Bool.or_true _).trans (Bool.or_true _).symm
  | connect | arrive | claim | accept | failAccept | more | reject | handOver | use | finish
  | dropGuard | giveBack | stop | leave => exact (Bool.or_false _).symm

/-- The wait for the shutdown is over exactly if it was triggered or the coordinator is gone. -/
theorem isOver_iff_of_run (hstart : start.signal.isOver = false)
    (hrun : start.run? events = some server) :
    server.signal.isOver = true ↔ .trigger ∈ events ∨ .dropCoordinator ∈ events := by
  have hany : server.signal.isOver = events.any Event.isSignal := by
    refine run_induction
      (p := fun events server => server.signal.isOver = events.any Event.isSignal) hstart ?_ hrun
    intro events event server next _ ih heffect
    rw [isOver_of_effect heffect, ih, List.any_append, List.any_cons, List.any_nil, Bool.or_false]
  rw [hany, List.any_eq_true]
  constructor
  · rintro ⟨event, hmem, hevent⟩
    cases event with
    | trigger => exact .inl hmem
    | dropCoordinator => exact .inr hmem
    | _ => cases hevent
  · rintro (hmem | hmem) <;> exact ⟨_, hmem, rfl⟩

/-- A loop can stop exactly if it runs and the wait for the shutdown is over. -/
theorem exists_stop_iff : (∃ next, server.step? (.stop listener) = some next) ↔
    server.isOpen listener = true ∧ server.signal.isOver = true := by
  rw [isOpen_iff]
  constructor
  · rintro ⟨next, hnext⟩
    cases effect_of_step? hnext with
    | stop hlistening hstop hover =>
      exact ⟨⟨_, hlistening, (Listening.loop_of_stop? hstop).1⟩, hover⟩
  · rintro ⟨⟨listening, hlistening, hloop⟩, hover⟩
    obtain ⟨stopped, hstop⟩ : ∃ stopped, listening.stop? = some stopped := by
      rw [Listening.stop?]
      split <;> simp_all
    exact ⟨_, step?_of_effect (.stop hlistening hstop hover)⟩

end ProxyGate.Server
