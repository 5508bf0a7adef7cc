import ProxyGate.Proofs.Server.Closed
import ProxyGate.Proofs.Server.History
import ProxyGate.Proofs.SideBySide

/-!
# A run without its shutdown

`undisturbed` are the events of a run without those of the shutdown: nobody triggers it, no loop
stops, and the server does not leave.  They make a run of their own, and `Beside` is what the servers
of the two runs have in common at every moment: the clients are the same, but for those that were
turned away when a loop stopped, and still wait where none did.

`beside_of_run` says so for every run.
-/

namespace ProxyGate.Server

open ProxyGate.Stream (Duplex)

/-- An event of the shutdown. -/
def Event.isShutdown : Event → Bool
  | .trigger | .dropCoordinator | .stop _ | .leave => true
  | _ => false

/-- Events without those of the shutdown. -/
def undisturbed (events : List Event) : List Event := events.filter (!·.isShutdown)

/-- A client in a run, and in the run without the shutdown. -/
inductive Visit.Beside : Visit → Visit → Prop where
  | same (visit : Visit) : Visit.Beside visit visit
  | turnedAway {visit : Visit} {transport : Duplex} (hstage : visit.stage = .refused) :
      Visit.Beside visit { visit with stage := .waiting transport }

/-- A listener in a run, and in the run without the shutdown. -/
inductive Listening.Beside : Listening → Listening → Prop where
  | same (listening : Listening) : Listening.Beside listening listening
  | stopped {listening other : Listening} (hloop : listening.loop = .stopped)
      (hbinding : other.binding = listening.binding) : Listening.Beside listening other

/-- A server in a run, and in the run without the shutdown. -/
structure Beside (server calm : Server) : Prop where
  headerTimeout : calm.headerTimeout = server.headerTimeout
  listeners : List.Forall₂ Listening.Beside server.listeners calm.listeners
  visits : List.Forall₂ Visit.Beside server.visits calm.visits
  /-- Only clients of listeners that are no longer open were turned away. -/
  closed : ∀ (client : Nat) (visit : Visit), server.visits[client]? = some visit →
    visit.stage = .refused → server.isOpen visit.listener = false
  active : calm.active = server.active
  nextId : calm.nextId = server.nextId
  metrics : calm.metrics = server.metrics
  handovers : calm.handovers = server.handovers

variable {server calm next last : Server} {event : Event} {client listener : Nat} {visit : Visit}
  {listening : Listening}

/-! ## Two runs -/

/-- A client that was not turned away is the same in both runs. -/
theorem Beside.getElem?_visits (h : Beside server calm) (hvisit : server.visits[client]? = some visit)
    (hstage : visit.stage ≠ .refused) : calm.visits[client]? = some visit := by
  obtain ⟨other, hother, hbeside⟩ := forall₂_getElem? h.visits hvisit
  cases hbeside with
  | same => exact hother
  | turnedAway hrefused => exact absurd hrefused hstage

/-- A listener is where it is in both runs, and does the same unless it has stopped. -/
theorem Beside.getElem?_listeners (h : Beside server calm)
    (hlistening : server.listeners[listener]? = some listening) :
    ∃ other, calm.listeners[listener]? = some other ∧ other.binding = listening.binding ∧
      (listening.loop ≠ .stopped → other = listening) := by
  obtain ⟨other, hother, hbeside⟩ := forall₂_getElem? h.listeners hlistening
  cases hbeside with
  | same => exact ⟨listening, hother, rfl, fun _ => rfl⟩
  | stopped hloop hbinding => exact ⟨other, hother, hbinding, fun hgoes => absurd hloop hgoes⟩

theorem Beside.running (h : Beside server calm)
    (hlistening : server.listeners[listener]? = some listening) (hloop : listening.loop ≠ .stopped) :
    calm.listeners[listener]? = some listening := by
  obtain ⟨other, hother, _, hsame⟩ := h.getElem?_listeners hlistening
  rw [hother, hsame hloop]

/-- An open listener has the same first client in both runs. -/
theorem Beside.firstWaiting? (h : Beside server calm) (hopen : server.isOpen listener = true) :
    calm.firstWaiting? listener = server.firstWaiting? listener := by
  have hclosed : ∀ visit ∈ server.visits, visit.stage = .refused →
      server.isOpen visit.listener = false := by
    intro visit hmem hstage
    obtain ⟨client, hvisit⟩ := List.getElem?_of_mem hmem
    exact h.closed client visit hvisit hstage
  refine (findIdx?_of_forall₂ (((List.forall₂_and_left _ _).mpr ⟨hclosed, h.visits⟩).imp ?_)).symm
  rintro visit other ⟨hrefused, hbeside⟩
  cases hbeside with
  | same => rfl
  | turnedAway hstage =>
    -- Who was turned away is a client of another listener.
    have hother : visit.listener ≠ listener := by
      rintro rfl
      rw [hrefused hstage] at hopen
      cases hopen
    simp [hother]

/-! ## One event -/

/-- Both runs change one listener in the same way. -/
theorem Beside.set (h : Beside server calm) (listener : Nat) (changed : Listening) :
    List.Forall₂ Listening.Beside (server.listeners.set listener changed)
      (calm.listeners.set listener changed) := by
  rw [List.set_eq_modify, List.set_eq_modify]
  exact forall₂_modify h.listeners fun _ _ _ _ _ => .same changed

/-- Both runs change one listener whose loop runs, and nothing else but the log. -/
theorem Beside.of_set (h : Beside server calm)
    (hlistening : server.listeners[listener]? = some listening) (hloop : listening.loop ≠ .stopped)
    (changed : Listening) (log log' : List Log.Entry) :
    Beside { server with listeners := server.listeners.set listener changed, log }
      { calm with listeners := calm.listeners.set listener changed, log := log' } where
  headerTimeout := h.headerTimeout
  listeners := h.set listener changed
  visits := h.visits
  closed := by
    intro client visit hvisit hstage
    exact stays_closed_of_set hlistening hloop rfl _ (h.closed client visit hvisit hstage)
  active := h.active
  nextId := h.nextId
  metrics := h.metrics
  handovers := h.handovers

/-- A client with a guard was not turned away. -/
theorem ne_refused_of_guard? {stage found : Stage} (hstage : found = stage)
    (hguard : stage.guard?.isSome = true) : found ≠ .refused := by
  rintro rfl
  rw [← hstage] at hguard
  cases hguard

/-- Both runs change a client that was not turned away, and has a guard then. -/
theorem Beside.of_modify (h : Beside server calm) (hvisit : server.visits[client]? = some visit)
    (hstage : visit.stage ≠ .refused) {change : Visit → Visit}
    (hchange : (change visit).stage.guard?.isSome = true)
    (hvisits : next.visits = server.visits.modify client change)
    (hvisits' : last.visits = calm.visits.modify client change)
    (hlisteners : List.Forall₂ Listening.Beside next.listeners last.listeners)
    (hclosed : ∀ listener, server.isOpen listener = false → next.isOpen listener = false)
    (hrest : last.headerTimeout = next.headerTimeout ∧ last.active = next.active ∧
      last.nextId = next.nextId ∧ last.metrics = next.metrics ∧ last.handovers = next.handovers) :
    Beside next last where
  headerTimeout := hrest.1
  listeners := hlisteners
  visits := by
    rw [hvisits, hvisits']
    refine forall₂_modify h.visits fun item other hitem _ hbeside => ?_
    cases hvisit.symm.trans hitem
    cases hbeside with
    | same => exact .same _
    | turnedAway hrefused => exact absurd hrefused hstage
  closed := by
    intro changed found hfound hrefused
    rw [hvisits, List.getElem?_modify] at hfound
    obtain ⟨before, hbefore, rfl⟩ := Option.map_eq_some_iff.mp hfound
    split at hrefused
    · rename_i hsame
      subst hsame
      cases hvisit.symm.trans hbefore
      exact absurd hrefused (ne_refused_of_guard? rfl hchange)
    · rename_i hother
      rw [if_neg hother]
      exact hclosed _ (h.closed changed before hbefore hrefused)
  active := hrest.2.1
  nextId := hrest.2.2.1
  metrics := hrest.2.2.2.1
  handovers := hrest.2.2.2.2

theorem Beside.connect (h : Beside server calm) {peer : Address.Socket} :
    Beside { server with visits := server.visits ++ [.start listener peer] }
      { calm with visits := calm.visits ++ [.start listener peer] } where
  headerTimeout := h.headerTimeout
  listeners := h.listeners
  visits := List.rel_append h.visits (.cons (.same _) .nil)
  closed := by
    intro client visit hvisit hstage
    rcases List.mem_append.mp (List.mem_of_getElem? hvisit) with hold | hnew
    · obtain ⟨place, hplace⟩ := List.getElem?_of_mem hold
      exact h.closed place visit hplace hstage
    · rw [List.mem_singleton.mp hnew] at hstage
      cases hstage
  active := h.active
  nextId := h.nextId
  metrics := h.metrics
  handovers := h.handovers

theorem mapTransport_eq_refused_iff {f : Duplex → Duplex} {stage : Stage} :
    stage.mapTransport f = .refused ↔ stage = .refused := by
  cases stage <;> simp [Stage.mapTransport]

theorem Beside.arrive (h : Beside server calm) (client : Nat) (step : Stream.Step) :
    let change (visit : Visit) : Visit :=
      { visit with stage := visit.stage.mapTransport (·.push step) }
    Beside { server with visits := server.visits.modify client change }
      { calm with visits := calm.visits.modify client change } where
  headerTimeout := h.headerTimeout
  listeners := h.listeners
  visits := by
    refine forall₂_modify h.visits fun visit other _ _ hbeside => ?_
    cases hbeside with
    | same => exact .same _
    | turnedAway hstage => exact .turnedAway (mapTransport_eq_refused_iff.mpr hstage)
  closed := by
    intro changed found hfound hrefused
    rw [List.getElem?_modify] at hfound
    obtain ⟨before, hbefore, rfl⟩ := Option.map_eq_some_iff.mp hfound
    split at hrefused
    · rename_i hsame
      rw [if_pos hsame]
      exact h.closed changed before hbefore (mapTransport_eq_refused_iff.mp hrefused)
    · rename_i hother
      rw [if_neg hother]
      exact h.closed changed before hbefore hrefused
  active := h.active
  nextId := h.nextId
  metrics := h.metrics
  handovers := h.handovers

/-- An event that is not of the shutdown is possible in the run without it, and does the same. -/
theorem Beside.step (h : Beside server calm) (heffect : Effect server event next)
    (hevent : event.isShutdown = false) : ∃ last, Effect calm event last ∧ Beside next last := by
  have hrest : _ ∧ _ ∧ _ ∧ _ ∧ _ :=
    ⟨h.headerTimeout, h.active, h.nextId, h.metrics, h.handovers⟩
  have hclosed : ∀ listener, server.isOpen listener = false → server.isOpen listener = false :=
    fun _ h => h
  cases heffect with
  | @connect listener peer hopen =>
    obtain ⟨listening, hlistening, hloop⟩ := isOpen_iff.mp hopen
    have hopen' : calm.isOpen listener = true :=
      isOpen_iff.mpr ⟨listening, h.running hlistening hloop, hloop⟩
    exact ⟨_, .connect hopen', h.connect⟩
  | @arrive client arrived visit hvisit =>
    obtain ⟨other, hother, _⟩ := forall₂_getElem? h.visits hvisit
    exact ⟨_, .arrive hother, h.arrive client arrived⟩
  | claim hlistening hclaim =>
    have hgoes := Listening.runs_of_claim? hclaim
    exact ⟨_, .claim (h.running hlistening hgoes) hclaim,
      h.of_set hlistening hgoes _ server.log calm.log⟩
  | @accept listener client listening passed visit transport hlistening hfirst hvisit hstage hpass =>
    have hgoes := Listening.runs_of_pass? hpass
    have hwaits : visit.stage ≠ .refused := by
      rw [hstage]
      rintro ⟨⟩
    have hfirst' := h.firstWaiting? (isOpen_iff.mpr ⟨listening, hlistening, hgoes⟩)
    refine ⟨_, .accept (h.running hlistening hgoes) (hfirst'.trans hfirst)
      (h.getElem?_visits hvisit hwaits) hstage hpass, ?_⟩
    refine h.of_modify hvisit hwaits rfl rfl ?_ (h.set listener passed)
      (stays_closed_of_set hlistening hgoes rfl) ⟨h.headerTimeout, ?_, ?_, ?_, h.handovers⟩
    · simp only [welcome, setStage, h.nextId]
    · simp only [welcome, setStage, h.active]
    · simp only [welcome, setStage, h.nextId]
    · simp only [welcome, setStage, h.metrics]
  | @failAccept listener reason listening given hlistening hgive =>
    have hgoes := Listening.runs_of_giveUp? hgive
    exact ⟨_, .failAccept (h.running hlistening hgoes) hgive, h.of_set hlistening hgoes _ _ _⟩
  | more hvisit hlistening hstage hready hlook =>
    obtain ⟨other, hother, hbinding, _⟩ := h.getElem?_listeners hlistening
    have hlive := ne_refused_of_guard? hstage rfl
    rw [← hbinding] at hready hlook
    rw [← h.headerTimeout] at hlook
    exact ⟨_, .more (h.getElem?_visits hvisit hlive) hother hstage hready hlook,
      h.of_modify hvisit hlive rfl rfl rfl h.listeners hclosed hrest⟩
  | reject hvisit hlistening hstage hready hlook =>
    obtain ⟨other, hother, hbinding, _⟩ := h.getElem?_listeners hlistening
    have hlive := ne_refused_of_guard? hstage rfl
    rw [← hbinding] at hready hlook
    rw [← h.headerTimeout] at hlook
    refine ⟨_, .reject (h.getElem?_visits hvisit hlive) hother hstage hready hlook,
      h.of_modify hvisit hlive rfl rfl rfl h.listeners hclosed
        ⟨h.headerTimeout, h.active, h.nextId, ?_, h.handovers⟩⟩
    simp only [Server.reject, h.metrics]
  | handOver hvisit hlistening hstage hready hlook =>
    obtain ⟨other, hother, hbinding, _⟩ := h.getElem?_listeners hlistening
    have hlive := ne_refused_of_guard? hstage rfl
    rw [← hbinding] at hready hlook
    rw [← h.headerTimeout] at hlook
    refine ⟨_, .handOver (h.getElem?_visits hvisit hlive) hother hstage hready hlook,
      h.of_modify hvisit hlive rfl rfl ?_ h.listeners hclosed
        ⟨h.headerTimeout, h.active, h.nextId, ?_, ?_⟩⟩
    · simp only [Server.handOver, setStage, hbinding]
    · simp only [Server.handOver, setStage, hbinding, h.metrics]
    · simp only [Server.handOver, setStage, hbinding, h.handovers]
  | use hvisit hstage hready =>
    have hlive := ne_refused_of_guard? hstage rfl
    exact ⟨_, .use (h.getElem?_visits hvisit hlive) hstage hready,
      h.of_modify hvisit hlive rfl rfl rfl h.listeners hclosed hrest⟩
  | finish hvisit hstage =>
    have hlive := ne_refused_of_guard? hstage rfl
    refine ⟨_, .finish (h.getElem?_visits hvisit hlive) hstage, ?_⟩
    exact h.of_modify hvisit hlive rfl rfl rfl h.listeners hclosed hrest
  | dropGuard hvisit hstage =>
    have hlive := ne_refused_of_guard? hstage rfl
    refine ⟨_, .dropGuard (h.getElem?_visits hvisit hlive) hstage,
      h.of_modify hvisit hlive rfl rfl rfl h.listeners hclosed
        ⟨h.headerTimeout, ?_, h.nextId, ?_, h.handovers⟩⟩
    · simp only [Server.dropGuard, setStage, h.active]
    · simp only [Server.dropGuard, setStage, h.metrics]
  | giveBack hvisit hstage =>
    have hlive := ne_refused_of_guard? hstage rfl
    refine ⟨_, .giveBack (h.getElem?_visits hvisit hlive) hstage,
      h.of_modify hvisit hlive rfl rfl rfl ?_ ?_ hrest⟩
    · refine forall₂_modify h.listeners fun listening other _ _ hbeside => ?_
      cases hbeside with
      | same => exact .same _
      | stopped hloop hbinding => exact .stopped hloop hbinding
    · exact fun listener hclosed => (isOpen_of_giveBack rfl listener).trans hclosed
  | trigger | dropCoordinator | stop | leave => cases hevent

/-- A client that is turned away goes on waiting in the run without the shutdown. -/
theorem Visit.Beside.turnAway {visit other : Visit} (h : Visit.Beside visit other)
    (hwaits : visit.stage.isWaiting = true) :
    Visit.Beside { visit with stage := .refused } other := by
  obtain ⟨transport, hstage⟩ := Stage.isWaiting_iff.mp hwaits
  cases h with
  | same =>
    obtain ⟨place, peer, stage, answers⟩ := visit
    cases hstage
    exact .turnedAway rfl
  | turnedAway hrefused => rw [hrefused] at hstage; cases hstage

/-- An event of the shutdown may turn away clients that wait, and does nothing else to the clients
and the counts. -/
theorem Beside.shutdown (h : Beside server calm) (heffect : Effect server event next)
    (hevent : event.isShutdown = true) : Beside next calm := by
  cases heffect with
  | trigger | dropCoordinator | leave =>
    exact ⟨h.headerTimeout, h.listeners, h.visits, h.closed, h.active, h.nextId, h.metrics,
      h.handovers⟩
  | @stop listener listening stopped hlistening hstop hover =>
    obtain ⟨hgoes, hstopped⟩ := Listening.loop_of_stop? hstop
    refine ⟨h.headerTimeout, ?_, ?_, ?_, h.active, h.nextId, h.metrics, h.handovers⟩
    · show List.Forall₂ _ (server.listeners.set listener stopped) _
      rw [List.set_eq_modify, ← calm.listeners.modify_id listener]
      refine forall₂_modify h.listeners fun before other hbefore _ hbeside => ?_
      cases hlistening.symm.trans hbefore
      cases hbeside with
      | same => exact .stopped hstopped (Listening.binding_of_stop? hstop).symm
      | stopped hloop => exact absurd hloop hgoes
    · refine List.forall₂_map_left_iff.mpr (h.visits.imp fun visit other hbeside => ?_)
      split
      · rename_i hwaits
        exact hbeside.turnAway hwaits.2
      · exact hbeside
    · intro client visit hvisit hrefused
      rw [turnAway, List.getElem?_map] at hvisit
      obtain ⟨before, hbefore, rfl⟩ := Option.map_eq_some_iff.mp hvisit
      split at hrefused
      · rename_i hwaits
        rw [if_pos hwaits, hwaits.1]
        exact closed_of_stop hlistening hstop rfl
      · rename_i hwaits
        rw [if_neg hwaits]
        exact stays_closed_of_set hlistening hgoes rfl _ (h.closed client before hbefore hrefused)
  | connect | arrive | claim | accept | failAccept | more | reject | handOver | use | finish
  | dropGuard | giveBack => cases hevent

/-! ## Runs -/

/-- A server is beside itself before anything has happened. -/
theorem beside_start (headerTimeout : Nat) (bindings : List Config.Binding) :
    Beside (ofBindings headerTimeout bindings) (ofBindings headerTimeout bindings) where
  headerTimeout := rfl
  listeners := List.forall₂_same.mpr fun listening _ => .same listening
  visits := .nil
  closed := by
    intro client visit hvisit
    cases hvisit
  active := rfl
  nextId := rfl
  metrics := rfl
  handovers := rfl

/-- The events of a run without those of the shutdown make a run, and the clients in it are the
same but for those that were turned away. -/
theorem beside_of_run {headerTimeout : Nat} {bindings : List Config.Binding} {events : List Event}
    (h : (ofBindings headerTimeout bindings).run? events = some server) :
    ∃ calm, (ofBindings headerTimeout bindings).run? (undisturbed events) = some calm ∧
      Beside server calm := by
  refine run_induction (p := fun events server => ∃ calm,
    (ofBindings headerTimeout bindings).run? (undisturbed events) = some calm ∧
      Beside server calm) ⟨_, rfl, beside_start headerTimeout bindings⟩ ?_ h
  rintro events event server next _ ⟨calm, hcalm, hbeside⟩ heffect
  rw [undisturbed, List.filter_append, ← undisturbed, run?_append hcalm]
  cases hevent : event.isShutdown with
  | true =>
    rw [List.filter_cons_of_neg (by simp [hevent])]
    exact ⟨calm, rfl, hbeside.shutdown heffect hevent⟩
  | false =>
    rw [List.filter_cons_of_pos (by simp [hevent])]
    obtain ⟨last, hlast, hnext⟩ := hbeside.step heffect hevent
    exact ⟨last, run?_cons hlast [], hnext⟩

end ProxyGate.Server
