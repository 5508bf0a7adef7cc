import ProxyGate.Proofs.Server.Turn
import Mathlib.Algebra.BigOperators.Fin
import Mathlib.Algebra.Order.BigOperators.Group.Finset

/-!
# Slots and the live count

Every slot of a listener is free, held by its accept loop, or held by a client; every guard is that
of a client that still holds its slot.  `Balanced` says so for one moment, `balanced_of_effect` that
no event upsets it, and `slots_balanced` is what follows for every run, whatever the interleaving.

The two ways back, first the guard and then the slot, are counted over the events of a run:
`handedBack_of_run` says that a client takes each of them once.
-/

namespace ProxyGate.Server

open Connection (Guard)
open ProxyGate.Stream (Duplex)

/-! ## What is counted -/

/-- The slots that an accept loop holds. -/
def Loop.slots : Loop → Nat
  | .holding => 1
  | .idle | .stopped => 0

namespace Stage

/-- Whether a client is looked at for a header or served. -/
def isLive : Stage → Bool
  | .sniffing _ _ | .serving _ _ _ => true
  | .waiting _ | .refused | .over _ _ _ _ => false

/-- How many guards a client has given back. -/
def drops : Stage → Nat
  | .over _ _ _ .slotHeld | .over _ _ _ .finished => 1
  | .waiting _ | .refused | .sniffing _ _ | .serving _ _ _ | .over _ _ _ .guarded => 0

/-- How many slots a client has given back. -/
def returns : Stage → Nat
  | .over _ _ _ .finished => 1
  | .waiting _ | .refused | .sniffing _ _ | .serving _ _ _ | .over _ _ _ .guarded
  | .over _ _ _ .slotHeld => 0

theorem holdsSlot_of_isGuarded {stage : Stage} (h : stage.isGuarded = true) :
    stage.holdsSlot = true := by
  revert h
  fun_cases isGuarded stage <;> simp [holdsSlot]

theorem isGuarded_of_isLive {stage : Stage} (h : stage.isLive = true) :
    stage.isGuarded = true := by
  revert h
  fun_cases isLive stage <;> simp [isGuarded]

variable (stage : Stage) (f : Duplex → Duplex)

@[simp] theorem holdsSlot_mapTransport : (stage.mapTransport f).holdsSlot = stage.holdsSlot := by
  fun_cases holdsSlot stage <;> rfl

@[simp] theorem isGuarded_mapTransport : (stage.mapTransport f).isGuarded = stage.isGuarded := by
  fun_cases isGuarded stage <;> rfl

@[simp] theorem drops_mapTransport : (stage.mapTransport f).drops = stage.drops := by
  fun_cases drops stage <;> rfl

@[simp] theorem returns_mapTransport : (stage.mapTransport f).returns = stage.returns := by
  fun_cases returns stage <;> rfl

end Stage

/-- The clients of a listener that hold a slot. -/
def held (server : Server) (listener : Nat) : Nat :=
  server.visits.countP fun visit => visit.listener = listener && visit.stage.holdsSlot

/-- The clients of a listener that are looked at or served. -/
def live (server : Server) (listener : Nat) : Nat :=
  server.visits.countP fun visit => visit.listener = listener && visit.stage.isLive

/-- The clients with a guard. -/
def guarded (server : Server) : Nat :=
  server.visits.countP fun visit => visit.stage.isGuarded

theorem live_le_held (server : Server) (listener : Nat) :
    server.live listener ≤ server.held listener := by
  refine List.countP_mono_left fun visit _ hlive => ?_
  rw [Bool.and_eq_true] at hlive ⊢
  exact ⟨hlive.1, Stage.holdsSlot_of_isGuarded (Stage.isGuarded_of_isLive hlive.2)⟩

/-- All slots and guards are where they belong. -/
structure Balanced (server : Server) : Prop where
  /-- The slots of a listener that are free, with its accept loop, and with its clients. -/
  slots : ∀ (index : Nat) (listening : Listening), server.listeners[index]? = some listening →
    listening.free + listening.loop.slots + server.held index = listening.binding.maxConnections
  active : server.active = server.guarded
  /-- Every client is at one of the listeners. -/
  placed : ∀ visit ∈ server.visits, visit.listener < server.listeners.length

/-! ## Slots that clients do not hold -/

namespace Listening

theorem slots_of_claim? {listening claimed : Listening} (h : listening.claim? = some claimed) :
    claimed.free + claimed.loop.slots = listening.free + listening.loop.slots := by
  obtain ⟨⟨hidle, hfree⟩, h⟩ := Option.ite_none_right_eq_some.mp h
  cases h
  simp only [hidle, Loop.slots]
  omega

theorem slots_of_pass? {listening passed : Listening} (h : listening.pass? = some passed) :
    passed.free + passed.loop.slots + 1 = listening.free + listening.loop.slots := by
  obtain ⟨hholding, h⟩ := Option.ite_none_right_eq_some.mp h
  cases h
  simp only [hholding, Loop.slots, Nat.add_zero]

theorem slots_of_giveUp? {listening given : Listening} (h : listening.giveUp? = some given) :
    given.free + given.loop.slots = listening.free + listening.loop.slots := by
  obtain ⟨hholding, h⟩ := Option.ite_none_right_eq_some.mp h
  cases h
  simp only [hholding, takeBack, Loop.slots, Nat.add_zero]

theorem slots_of_stop? {listening stopped : Listening} (h : listening.stop? = some stopped) :
    stopped.free + stopped.loop.slots = listening.free + listening.loop.slots := by
  rw [stop?] at h
  cases hloop : listening.loop <;> rw [hloop] at h <;> cases h <;> rfl

end Listening

/-! ## Counting clients -/

theorem countP_modify {α : Type} {p : α → Bool} {items : List α} {index : Nat} {item : α}
    (hitem : items[index]? = some item) (change : α → α) :
    (items.modify index change).countP p + (p item).toNat =
      items.countP p + (p (change item)).toNat := by
  obtain ⟨hlt, hsame⟩ := List.getElem?_eq_some_iff.mp hitem
  obtain ⟨front, other, back, hitems, rfl, hchanged⟩ := List.exists_of_modify change hlt
  have hother : other = item := by
    rw [← hsame]
    simp [hitems]
  subst hother
  rw [hchanged, hitems, List.countP_append, List.countP_append, List.countP_cons, List.countP_cons]
  cases p other <;> cases p (change other) <;> simp <;> omega

variable {server next : Server} {event : Event}

/-- What a client counts for: its listener, and whether it has a slot and a guard of it. -/
def Visit.share (visit : Visit) : Nat × Bool × Bool :=
  (visit.listener, visit.stage.holdsSlot, visit.stage.isGuarded)

/-- Only what clients count for is counted. -/
theorem held_of_share (h : next.visits.map Visit.share = server.visits.map Visit.share) :
    next.held = server.held ∧ next.guarded = server.guarded := by
  have hheld : ∀ (server : Server) listener, server.held listener =
      (server.visits.map Visit.share).countP fun share => share.1 = listener && share.2.1 :=
    fun _ _ => by rw [List.countP_map]; rfl
  have hguarded : ∀ server : Server, server.guarded =
      (server.visits.map Visit.share).countP fun share => share.2.2 :=
    fun _ => by rw [List.countP_map]; rfl
  exact ⟨funext fun listener => by rw [hheld, hheld, h], by rw [hguarded, hguarded, h]⟩

theorem held_of_modify {client : Nat} {visit : Visit} {change : Visit → Visit}
    (hvisit : server.visits[client]? = some visit)
    (hvisits : next.visits = server.visits.modify client change) (listener : Nat) :
    next.held listener + (visit.listener = listener && visit.stage.holdsSlot).toNat =
      server.held listener +
        ((change visit).listener = listener && (change visit).stage.holdsSlot).toNat := by
  rw [held, held, hvisits]
  exact countP_modify hvisit change

theorem guarded_of_modify {client : Nat} {visit : Visit} {change : Visit → Visit}
    (hvisit : server.visits[client]? = some visit)
    (hvisits : next.visits = server.visits.modify client change) :
    next.guarded + visit.stage.isGuarded.toNat =
      server.guarded + (change visit).stage.isGuarded.toNat := by
  rw [guarded, guarded, hvisits]
  exact countP_modify hvisit change

/-! ## One event -/

theorem placed_of_map (hplaced : ∀ visit ∈ server.visits, visit.listener < server.listeners.length)
    (hvisits : next.visits.map (·.listener) = server.visits.map (·.listener))
    (hlength : next.listeners.length = server.listeners.length) :
    ∀ visit ∈ next.visits, visit.listener < next.listeners.length := by
  intro visit hmem
  have hlistener : visit.listener ∈ next.visits.map (·.listener) := List.mem_map_of_mem hmem
  rw [hvisits] at hlistener
  obtain ⟨other, hother, hsame⟩ := List.mem_map.mp hlistener
  rw [hlength, ← hsame]
  exact hplaced other hother

/-- A change of shares at one listener keeps the balance when the slots of that listener add up. -/
theorem slots_of_modify {index : Nat} {listening : Listening} {change : Listening → Listening}
    (hslots : ∀ (index : Nat) (listening : Listening), server.listeners[index]? = some listening →
      listening.free + listening.loop.slots + server.held index =
        listening.binding.maxConnections)
    (hlistening : server.listeners[index]? = some listening)
    (hlisteners : next.listeners = server.listeners.modify index change)
    (hbinding : (change listening).binding = listening.binding)
    (hself : (change listening).free + (change listening).loop.slots + next.held index =
      listening.free + listening.loop.slots + server.held index)
    (hother : ∀ other ≠ index, next.held other = server.held other) :
    ∀ (index : Nat) (listening : Listening), next.listeners[index]? = some listening →
      listening.free + listening.loop.slots + next.held index =
        listening.binding.maxConnections := by
  intro position found hfound
  rw [hlisteners, List.getElem?_modify] at hfound
  obtain ⟨before, hbefore, rfl⟩ := Option.map_eq_some_iff.mp hfound
  by_cases hsame : index = position
  · subst hsame
    rw [hlistening, Option.some.injEq] at hbefore
    subst hbefore
    rw [if_pos rfl, hself, hbinding]
    exact hslots index listening hlistening
  · rw [if_neg hsame, hother position (Ne.symm hsame)]
    exact hslots position before hbefore

/-- An event that changes no share and no listener keeps the balance. -/
theorem Balanced.of_share (h : Balanced server)
    (hshare : next.visits.map Visit.share = server.visits.map Visit.share)
    (hlisteners : next.listeners = server.listeners) (hactive : next.active = server.active) :
    Balanced next := by
  obtain ⟨hheld, hguarded⟩ := held_of_share hshare
  refine ⟨?_, by rw [hactive, hguarded, h.active], placed_of_map h.placed ?_ (by rw [hlisteners])⟩
  · rw [hheld, hlisteners]
    exact h.slots
  · have hmap := congrArg (List.map Prod.fst) hshare
    rwa [List.map_map, List.map_map] at hmap

/-- An event that moves slots between a listener and its accept loop keeps the balance. -/
theorem Balanced.of_set (h : Balanced server) {index : Nat} {listening changed : Listening}
    (hlistening : server.listeners[index]? = some listening)
    (hlisteners : next.listeners = server.listeners.set index changed)
    (hbinding : changed.binding = listening.binding)
    (hslots : changed.free + changed.loop.slots = listening.free + listening.loop.slots)
    (hshare : next.visits.map Visit.share = server.visits.map Visit.share)
    (hactive : next.active = server.active) : Balanced next := by
  obtain ⟨hheld, hguarded⟩ := held_of_share hshare
  rw [List.set_eq_modify] at hlisteners
  refine ⟨?_, by rw [hactive, hguarded, h.active], placed_of_map h.placed ?_ ?_⟩
  · exact slots_of_modify h.slots hlistening hlisteners hbinding (by rw [hheld, hslots])
      fun _ _ => by rw [hheld]
  · have hmap := congrArg (List.map Prod.fst) hshare
    rwa [List.map_map, List.map_map] at hmap
  · rw [hlisteners, List.length_modify]

/-- An event that changes one client and its listener keeps the balance when slots and guards add
up. -/
theorem Balanced.of_modify (h : Balanced server) {client : Nat} {visit : Visit}
    {listening : Listening} {change : Visit → Visit} {adjust : Listening → Listening}
    (hvisit : server.visits[client]? = some visit)
    (hlistening : server.listeners[visit.listener]? = some listening)
    (hvisits : next.visits = server.visits.modify client change)
    (hlisteners : next.listeners = server.listeners.modify visit.listener adjust)
    (hlistener : (change visit).listener = visit.listener)
    (hbinding : (adjust listening).binding = listening.binding)
    (hslots : (adjust listening).free + (adjust listening).loop.slots +
      (change visit).stage.holdsSlot.toNat =
        listening.free + listening.loop.slots + visit.stage.holdsSlot.toNat)
    (hactive : next.active + visit.stage.isGuarded.toNat =
      server.active + (change visit).stage.isGuarded.toNat) : Balanced next := by
  have hheld := held_of_modify hvisit hvisits
  have hguarded := guarded_of_modify hvisit hvisits
  have hbalance := h.active
  refine ⟨slots_of_modify h.slots hlistening hlisteners hbinding ?_ fun other hother => ?_,
    by omega, placed_of_map h.placed ?_ ?_⟩
  · -- At the listener of the client its own slot may come or go, at the others nothing does.
    have hself := hheld visit.listener
    simp only [hlistener, decide_true, Bool.true_and] at hself
    omega
  · have hothers := hheld other
    simp only [hlistener, Ne.symm hother, decide_false, Bool.false_and] at hothers
    exact hothers
  · rw [hvisits]
    refine map_modify_of_same fun found hfound => ?_
    rw [hvisit, Option.some.injEq] at hfound
    rw [← hfound, hlistener]
  · rw [hlisteners, List.length_modify]

theorem share_of_modify {client : Nat} {visit : Visit} {change : Visit → Visit}
    (hvisit : server.visits[client]? = some visit) (h : (change visit).share = visit.share) :
    (server.visits.modify client change).map Visit.share = server.visits.map Visit.share := by
  refine map_modify_of_same fun other hother => ?_
  rw [hvisit, Option.some.injEq] at hother
  rwa [← hother]

/-- Clients that are turned away count for as much as when they waited. -/
theorem share_turnAway (server : Server) (listener : Nat) :
    (server.turnAway listener).visits.map Visit.share = server.visits.map Visit.share := by
  rw [turnAway, List.map_map]
  refine List.map_congr_left fun visit _ => ?_
  rw [Function.comp_apply]
  split
  · rename_i hwaits
    obtain ⟨transport, hstage⟩ := Stage.isWaiting_iff.mp hwaits.2
    rw [Visit.share, Visit.share, hstage]
    rfl
  · rfl

/-- A client that comes counts for nothing yet. -/
theorem Balanced.of_connect (h : Balanced server) {listener : Nat} {peer : Address.Socket}
    (hopen : server.isOpen listener = true)
    (hvisits : next.visits = server.visits ++ [.start listener peer])
    (hlisteners : next.listeners = server.listeners) (hactive : next.active = server.active) :
    Balanced next := by
  have hheld : next.held = server.held := by
    funext index
    simp [held, hvisits, Visit.start, Stage.holdsSlot]
  have hguarded : next.guarded = server.guarded := by
    simp [guarded, hvisits, Visit.start, Stage.isGuarded]
  refine ⟨by rw [hheld, hlisteners]; exact h.slots, by rw [hactive, hguarded]; exact h.active,
    fun visit hmem => ?_⟩
  rw [hlisteners]
  rw [hvisits] at hmem
  rcases List.mem_append.mp hmem with hmem | hmem
  · exact h.placed visit hmem
  · rw [List.mem_singleton.mp hmem]
    exact lt_of_isOpen hopen

theorem guarded_pos {client : Nat} {visit : Visit} (hvisit : server.visits[client]? = some visit)
    (hguarded : visit.stage.isGuarded = true) : 0 < server.guarded :=
  List.countP_pos_iff.mpr ⟨visit, List.mem_of_getElem? hvisit, hguarded⟩

/-- No event upsets the balance. -/
theorem balanced_of_effect (h : Balanced server) (heffect : Effect server event next) :
    Balanced next := by
  cases heffect with
  | trigger | dropCoordinator | leave => exact h.of_share rfl rfl rfl
  | connect hopen => exact h.of_connect hopen rfl rfl rfl
  | claim hlistening hclaim =>
    exact h.of_set hlistening rfl (Listening.binding_of_claim? hclaim)
      (Listening.slots_of_claim? hclaim) rfl rfl
  | failAccept hlistening hgive =>
    exact h.of_set hlistening rfl (Listening.binding_of_giveUp? hgive)
      (Listening.slots_of_giveUp? hgive) rfl rfl
  | stop hlistening hstop hover =>
    exact h.of_set hlistening rfl (Listening.binding_of_stop? hstop)
      (Listening.slots_of_stop? hstop) (share_turnAway _ _) rfl
  | arrive hvisit =>
    exact h.of_share (share_of_modify hvisit (by simp [Visit.share])) rfl rfl
  | more hvisit hlistening hstage =>
    exact h.of_share (share_of_modify hvisit (by simp only [Visit.share, hstage]; rfl)) rfl rfl
  | reject hvisit hlistening hstage =>
    exact h.of_share (share_of_modify hvisit (by simp only [Visit.share, hstage]; rfl)) rfl rfl
  | handOver hvisit hlistening hstage =>
    exact h.of_share (share_of_modify hvisit (by simp only [Visit.share, hstage]; rfl)) rfl rfl
  | use hvisit hstage | finish hvisit hstage =>
    exact h.of_share (share_of_modify hvisit (by simp only [Visit.share, hstage]; rfl)) rfl rfl
  | accept hlistening hfirst hvisit hstage hpass =>
    have hlistener := listener_of_firstWaiting? hfirst hvisit
    subst hlistener
    have hslots := Listening.slots_of_pass? hpass
    refine h.of_modify hvisit hlistening rfl (List.set_eq_modify _ _ _) rfl
      (Listening.binding_of_pass? hpass) ?_ ?_
    · rw [hstage]
      exact hslots
    · rw [hstage]
      rfl
  | dropGuard hvisit hstage =>
    -- The guard is one of those that count, so that the count does not stop at zero.
    have hpos : 0 < server.guarded := guarded_pos hvisit (by rw [hstage]; rfl)
    obtain ⟨listening, hlistening⟩ : ∃ listening, server.listeners[_]? = some listening :=
      ⟨_, List.getElem?_eq_getElem (h.placed _ (List.mem_of_getElem? hvisit))⟩
    refine h.of_modify hvisit hlistening rfl (List.modify_id _ _).symm rfl rfl ?_ ?_
    · rw [hstage]
      rfl
    · have hactive := h.active
      rw [hstage]
      show server.active - 1 + 1 = server.active + 0
      omega
  | giveBack hvisit hstage =>
    obtain ⟨listening, hlistening⟩ : ∃ listening, server.listeners[_]? = some listening :=
      ⟨_, List.getElem?_eq_getElem (h.placed _ (List.mem_of_getElem? hvisit))⟩
    refine h.of_modify hvisit hlistening rfl rfl rfl rfl ?_ ?_
    · rw [hstage]
      show listening.free + 1 + listening.loop.slots + 0 = listening.free + listening.loop.slots + 1
      omega
    · rw [hstage]
      rfl

/-! ## All events -/

/-- A server that has just been opened is balanced, and stays so in every run. -/
theorem balanced_of_run {headerTimeout : Nat} {bindings : List Config.Binding}
    {events : List Event} (h : (ofBindings headerTimeout bindings).run? events = some server) :
    Balanced server := by
  refine run_induction (p := fun _ server => Balanced server) ⟨?_, rfl, ?_⟩ ?_ h
  · intro index listening hlistening
    obtain ⟨binding, _, rfl⟩ := List.mem_map.mp (List.mem_of_getElem? hlistening)
    rfl
  · exact fun _ hmem => absurd hmem List.not_mem_nil
  · exact fun _ _ _ _ _ hbalanced heffect => balanced_of_effect hbalanced heffect

/-! ## Giving back -/

/-- A turn gives back what its event says. -/
theorem handedBack_of_turn {client : Nat} {visit later : Visit} {new : List Handover}
    (h : Turn server client visit event later new) :
    later.stage.drops = visit.stage.drops + [event].count (.dropGuard client) ∧
      later.stage.returns = visit.stage.returns + [event].count (.giveBack client) := by
  rw [List.count_singleton, List.count_singleton]
  cases h with
  | rest hevent =>
    have hdrop : event ≠ .dropGuard client := by
      rintro rfl
      exact hevent rfl
    have hgive : event ≠ .giveBack client := by
      rintro rfl
      exact hevent rfl
    simp [hdrop, hgive]
  | arrive => simp
  | accept _ _ hstage | more _ hstage | reject _ hstage | handOver _ hstage | use hstage
  | finish hstage | dropGuard hstage | giveBack hstage | refuse hstage =>
    simp [hstage, Stage.drops, Stage.returns]

/-- The guards and slots that a client has given back are those that the run says. -/
theorem handedBack_of_run {headerTimeout : Nat} {bindings : List Config.Binding}
    {events : List Event} (h : (ofBindings headerTimeout bindings).run? events = some server)
    {client : Nat} {visit : Visit} (hvisit : server.visits[client]? = some visit) :
    events.count (.dropGuard client) = visit.stage.drops ∧
      events.count (.giveBack client) = visit.stage.returns := by
  refine life_induction (p := fun events visit _ =>
    events.count (.dropGuard client) = visit.stage.drops ∧
      events.count (.giveBack client) = visit.stage.returns) rfl rfl ?_ ?_ h hvisit
  · intro events server listener peer _ _ habsent
    have hnone : ∀ event : Event, event.client? = some client → events.count event = 0 :=
      fun event hevent => List.count_eq_zero.mpr fun hmem => habsent event hmem hevent
    rw [List.count_append, List.count_append, hnone _ rfl, hnone _ rfl]
    exact ⟨rfl, rfl⟩
  · intro events event server visit later _ new _ hbefore hturn
    obtain ⟨hdrops, hreturns⟩ := handedBack_of_turn hturn
    rw [List.count_append, List.count_append, hbefore.1, hbefore.2]
    exact ⟨hdrops.symm, hreturns.symm⟩

/-- What is left to do for a connection that is over. -/
def Cleanup.events (client : Nat) : Cleanup → List Event
  | .guarded => [.dropGuard client, .giveBack client]
  | .slotHeld => [.giveBack client]
  | .finished => []

theorem exists_run_giveBack {client : Nat} {visit : Visit} {guard : Guard} {outcome : Outcome}
    {transport : Duplex} (hvisit : server.visits[client]? = some visit)
    (hstage : visit.stage = .over guard outcome transport .slotHeld) :
    ∃ last, server.run? [.giveBack client] = some last ∧
      last.visits[client]? =
        some { visit with stage := .over guard outcome transport .finished } := by
  have hstep : server.step? (.giveBack client) =
      some (server.giveBack client visit guard outcome transport) := by
    simp [step?, hvisit, hstage]
  refine ⟨_, by rw [run?, List.foldlM_cons, hstep]; rfl, ?_⟩
  rw [giveBack, setStage, List.getElem?_modify_eq, hvisit]
  rfl

/-- A connection that is over can always give back what it still holds. -/
theorem exists_run_cleanup {client : Nat} {visit : Visit} {guard : Guard} {outcome : Outcome}
    {transport : Duplex} {cleanup : Cleanup} (hvisit : server.visits[client]? = some visit)
    (hstage : visit.stage = .over guard outcome transport cleanup) :
    ∃ last, server.run? (cleanup.events client) = some last ∧
      last.visits[client]? =
        some { visit with stage := .over guard outcome transport .finished } := by
  cases cleanup with
  | guarded =>
    have hstep : server.step? (.dropGuard client) =
        some (server.dropGuard client guard outcome transport) := by
      simp [step?, hvisit, hstage]
    have hnext : (server.dropGuard client guard outcome transport).visits[client]? =
        some { visit with stage := .over guard outcome transport .slotHeld } := by
      rw [dropGuard, setStage, List.getElem?_modify_eq, hvisit]
      rfl
    obtain ⟨last, hlast, hfinished⟩ := exists_run_giveBack hnext rfl
    refine ⟨last, ?_, hfinished⟩
    rw [Cleanup.events, run?, List.foldlM_cons, hstep]
    exact hlast
  | slotHeld => exact exists_run_giveBack hvisit hstage
  | finished => exact ⟨server, rfl, by rw [hvisit, ← hstage]⟩

/-! ## All listeners together -/

/-- A count is the sum of the counts at each place. -/
theorem countP_eq_sum {α : Type} {items : List α} (place : α → Nat) (p : α → Bool) {n : Nat}
    (hplace : ∀ item ∈ items, place item < n) :
    items.countP p =
      ∑ index : Fin n, items.countP fun item => place item = index && p item := by
  induction items with
  | nil => simp
  | cons item rest ih =>
    rw [List.forall_mem_cons] at hplace
    simp only [List.countP_cons, Finset.sum_add_distrib, ← ih hplace.2]
    congr 1
    have hone : ∀ index : Fin n, (decide (place item = index) && p item) = true ↔
        index = ⟨place item, hplace.1⟩ ∧ p item = true := by
      intro index
      rw [Bool.and_eq_true, decide_eq_true_eq, Fin.ext_iff, eq_comm]
    simp only [hone]
    by_cases hp : p item = true <;> simp [hp]

/-- There are no more guards than the listeners have slots together. -/
theorem Balanced.guarded_le (h : Balanced server) :
    server.guarded ≤
      (server.listeners.map fun listening => listening.binding.maxConnections).sum := by
  have hholds : server.guarded ≤ server.visits.countP fun visit => visit.stage.holdsSlot :=
    List.countP_mono_left fun visit _ => Stage.holdsSlot_of_isGuarded
  refine hholds.trans ?_
  rw [countP_eq_sum Visit.listener _ h.placed, ← Fin.sum_univ_fun_getElem]
  refine Finset.sum_le_sum fun index _ => ?_
  have := h.slots index _ (List.getElem?_eq_getElem index.isLt)
  rw [held] at this
  omega

/-- A client that waits, was refused, or has given back its slot holds none. -/
theorem Stage.holdsSlot_eq_false {stage : Stage}
    (h : stage.isWaiting = true ∨ stage = .refused ∨ stage.returns = 1) :
    stage.holdsSlot = false := by
  revert h
  fun_cases holdsSlot stage <;> simp [isWaiting, returns]

/-- **Slots and the live count stay consistent.**  After every run of a server:

* The slots of a listener that are free, with its accept loop, and with its clients are together its
  limit, and no more clients than that are looked at or served.
* A client with a guard still holds its slot; the live count is the number of guards, and at most
  the sum of the limits.
* A client has given back its guard and its slot as often as its stage says, which is once when it
  is finished; and a connection that is over can always give back what it still holds.
* When no client is left that was accepted and has not given back its slot, nothing is counted, and
  no client holds a slot. -/
theorem slots_balanced {headerTimeout : Nat} {bindings : List Config.Binding}
    {events : List Event} {server : Server}
    (h : (ofBindings headerTimeout bindings).run? events = some server) :
    (∀ index binding, bindings[index]? = some binding →
      ∃ listening, server.listeners[index]? = some listening ∧
        listening.free + listening.loop.slots + server.held index = binding.maxConnections ∧
        server.live index ≤ binding.maxConnections) ∧
    (∀ visit ∈ server.visits, visit.stage.isGuarded = true → visit.stage.holdsSlot = true) ∧
    server.active = server.guarded ∧
    server.active ≤ (bindings.map (·.maxConnections)).sum ∧
    (∀ client visit, server.visits[client]? = some visit →
      events.count (.dropGuard client) = visit.stage.drops ∧
      events.count (.giveBack client) = visit.stage.returns ∧
      ∀ guard outcome transport cleanup, visit.stage = .over guard outcome transport cleanup →
        ∃ last, server.run? (cleanup.events client) = some last ∧
          last.visits[client]? =
            some { visit with stage := .over guard outcome transport .finished }) ∧
    ((∀ visit ∈ server.visits, visit.stage.isWaiting = true ∨ visit.stage = .refused ∨
        visit.stage.returns = 1) →
      server.active = 0 ∧ ∀ index, server.held index = 0) := by
  have hbalanced := balanced_of_run h
  have hbindings := (settings_of_run_ofBindings h).2
  have hlimits : (server.listeners.map fun listening => listening.binding.maxConnections) =
      bindings.map (·.maxConnections) := by
    rw [← hbindings, List.map_map]
    rfl
  refine ⟨fun index binding hbinding => ?_, fun visit _ => Stage.holdsSlot_of_isGuarded,
    hbalanced.active, ?_, fun client visit hvisit => ?_, fun hleft => ?_⟩
  · rw [← hbindings, List.getElem?_map] at hbinding
    obtain ⟨listening, hlistening, rfl⟩ := Option.map_eq_some_iff.mp hbinding
    have hslots := hbalanced.slots index listening hlistening
    refine ⟨listening, hlistening, hslots, le_trans (server.live_le_held index) ?_⟩
    omega
  · rw [hbalanced.active, ← hlimits]
    exact hbalanced.guarded_le
  · obtain ⟨hdrops, hreturns⟩ := handedBack_of_run h hvisit
    exact ⟨hdrops, hreturns, fun _ _ _ _ hstage => exists_run_cleanup hvisit hstage⟩
  · have hnone : ∀ visit ∈ server.visits, visit.stage.holdsSlot = false :=
      fun visit hmem => Stage.holdsSlot_eq_false (hleft visit hmem)
    refine ⟨?_, fun index => List.countP_eq_zero.mpr fun visit hmem => ?_⟩
    · rw [hbalanced.active]
      refine List.countP_eq_zero.mpr fun visit hmem hguarded => ?_
      have hholds := Stage.holdsSlot_of_isGuarded hguarded
      rw [hnone visit hmem] at hholds
      cases hholds
    · simp [hnone visit hmem]

/-- Two listeners, the first with one slot. -/
def twoListeners : List Config.Binding :=
  [⟨.v4 .unspecified 80, .disabled, 1⟩, ⟨.v4 .unspecified 81, .required, 2⟩]

/-- A run in which one client is not accepted at once, one handler crashes, one connection is
rejected, and one client comes late. -/
def crowded : List Event :=
  [.connect 0 (.v4 .unspecified 1), .connect 1 (.v4 .unspecified 2), .claim 1,
    .failAccept 1 "Too many open files", .claim 1, .claim 0, .accept 0, .accept 1, .look 0,
    .connect 0 (.v4 .unspecified 3), .arrive 1 (.data [71]), .look 1, .finish 0 .crash,
    .dropGuard 1, .dropGuard 0, .giveBack 0, .claim 0, .trigger, .stop 0, .giveBack 1, .stop 1,
    .leave]

/-- The first client after that run. -/
def crashed : Visit where
  listener := 0
  peer := .v4 .unspecified 1
  stage := .over ⟨1, .streaming⟩
    (.served ⟨1, .v4 .unspecified 1, .v4 .unspecified 80, none⟩ .crash) { inlet := [] } .finished

/-- After that run everything has been given back, by each client once. -/
theorem slots_balanced_crowded :
    ∃ server, (ofBindings 5000 twoListeners).run? crowded = some server ∧
      (∃ listening, server.listeners[1]? = some listening ∧
        listening.free + listening.loop.slots + server.held 1 = 2 ∧ server.live 1 ≤ 2) ∧
      crowded.count (.dropGuard 0) = 1 ∧ crowded.count (.giveBack 0) = 1 ∧
      (∃ last, server.run? [] = some last ∧ last.visits[0]? = some crashed) ∧
      server.active = 0 ∧ ∀ index, server.held index = 0 := by
  obtain ⟨server, hrun⟩ :
      ∃ server, (ofBindings 5000 twoListeners).run? crowded = some server := ⟨_, rfl⟩
  have hvisit : ((ofBindings 5000 twoListeners).run? crowded).bind (·.visits[0]?) =
      some crashed := rfl
  have hleft : ((ofBindings 5000 twoListeners).run? crowded).all (fun server =>
      server.visits.all fun visit =>
        visit.stage.isWaiting || visit.stage = .refused || visit.stage.returns = 1) = true := by
    decide
  rw [hrun] at hvisit hleft
  obtain ⟨hslots, _, _, _, hclients, hnone⟩ := slots_balanced hrun
  obtain ⟨hdrops, hreturns, hcleanup⟩ := hclients 0 crashed hvisit
  refine ⟨server, hrun, hslots 1 _ rfl, hdrops, hreturns, hcleanup _ _ _ _ rfl, hnone ?_⟩
  intro visit hmem
  have hvisit := List.all_eq_true.mp hleft visit hmem
  simpa [or_assoc] using hvisit

end ProxyGate.Server
