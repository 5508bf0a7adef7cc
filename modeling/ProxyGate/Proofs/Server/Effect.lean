import ProxyGate.Server.Step
import Mathlib.Data.List.Basic
import Mathlib.Data.List.Induction

/-!
# What an event does

`Effect` says once, for each event, when it is possible and what the server is like after it;
`effect_of_step?` is the inversion of `step?`, and everything that is proved of runs goes through
it.  `run_induction` is the induction over runs, with the events so far as the history of a state.
-/

namespace ProxyGate.Server

open Connection (Guard Origin)
open ProxyGate.Stream (Duplex Replay)

/-- Everything that an event can do. -/
inductive Effect (server : Server) : Event → Server → Prop where
  | connect {listener : Nat} {peer : Address.Socket} (hopen : server.isOpen listener = true) :
      Effect server (.connect listener peer)
        { server with visits := server.visits ++ [.start listener peer] }
  | arrive {client : Nat} {step : Stream.Step} {visit : Visit}
      (hvisit : server.visits[client]? = some visit) :
      Effect server (.arrive client step) { server with
        visits := server.visits.modify client fun visit =>
          { visit with stage := visit.stage.mapTransport (·.push step) } }
  | claim {listener : Nat} {listening claimed : Listening}
      (hlistening : server.listeners[listener]? = some listening)
      (hclaim : listening.claim? = some claimed) :
      Effect server (.claim listener)
        { server with listeners := server.listeners.set listener claimed }
  | accept {listener client : Nat} {listening passed : Listening} {visit : Visit}
      {transport : Duplex} (hlistening : server.listeners[listener]? = some listening)
      (hfirst : server.firstWaiting? listener = some client)
      (hvisit : server.visits[client]? = some visit) (hstage : visit.stage = .waiting transport)
      (hpass : listening.pass? = some passed) :
      Effect server (.accept listener)
        ({ server with listeners := server.listeners.set listener passed }.welcome client
          listening.binding.policy transport)
  | failAccept {listener : Nat} {reason : String} {listening given : Listening}
      (hlistening : server.listeners[listener]? = some listening)
      (hgive : listening.giveUp? = some given) :
      Effect server (.failAccept listener reason) { server with
        listeners := server.listeners.set listener given
        log := server.log ++ [acceptEntry listening.binding.address reason] }
  | more {client : Nat} {visit : Visit} {listening : Listening} {guard : Guard}
      {progress next : Sniff.Progress Duplex} (hvisit : server.visits[client]? = some visit)
      (hlistening : server.listeners[visit.listener]? = some listening)
      (hstage : visit.stage = .sniffing guard progress)
      (hready : canLook progress listening.binding.policy = true)
      (hlook : Look.once server.headerTimeout progress listening.binding.policy = .more next) :
      Effect server (.look client) (server.setStage client (.sniffing guard next))
  | reject {client : Nat} {visit : Visit} {listening : Listening} {guard : Guard}
      {progress : Sniff.Progress Duplex} {failure : Sniff.Failure} {transport : Duplex}
      (hvisit : server.visits[client]? = some visit)
      (hlistening : server.listeners[visit.listener]? = some listening)
      (hstage : visit.stage = .sniffing guard progress)
      (hready : canLook progress listening.binding.policy = true)
      (hlook : Look.once server.headerTimeout progress listening.binding.policy =
        .rejected failure transport) :
      Effect server (.look client) (server.reject client guard failure transport)
  | handOver {client : Nat} {visit : Visit} {listening : Listening} {guard : Guard}
      {progress : Sniff.Progress Duplex} {header : Option Header} {stream : Replay Duplex}
      (hvisit : server.visits[client]? = some visit)
      (hlistening : server.listeners[visit.listener]? = some listening)
      (hstage : visit.stage = .sniffing guard progress)
      (hready : canLook progress listening.binding.policy = true)
      (hlook : Look.once server.headerTimeout progress listening.binding.policy =
        .accepted header stream) :
      Effect server (.look client)
        (server.handOver client guard listening.binding.policy
          ⟨guard.id, visit.peer, listening.binding.address, header⟩ stream)
  | use {client : Nat} {operation : Stream.Operation} {visit : Visit} {guard : Guard}
      {origin : Origin} {stream : Replay Duplex} (hvisit : server.visits[client]? = some visit)
      (hstage : visit.stage = .serving guard origin stream)
      (hready : stream.isReady operation = true) :
      Effect server (.use client operation) (server.use client guard origin stream operation)
  | finish {client : Nat} {ending : Ending} {visit : Visit} {guard : Guard} {origin : Origin}
      {stream : Replay Duplex} (hvisit : server.visits[client]? = some visit)
      (hstage : visit.stage = .serving guard origin stream) :
      Effect server (.finish client ending) (server.finish client guard origin stream ending)
  | dropGuard {client : Nat} {visit : Visit} {guard : Guard} {outcome : Outcome}
      {transport : Duplex} (hvisit : server.visits[client]? = some visit)
      (hstage : visit.stage = .over guard outcome transport .guarded) :
      Effect server (.dropGuard client) (server.dropGuard client guard outcome transport)
  | giveBack {client : Nat} {visit : Visit} {guard : Guard} {outcome : Outcome}
      {transport : Duplex} (hvisit : server.visits[client]? = some visit)
      (hstage : visit.stage = .over guard outcome transport .slotHeld) :
      Effect server (.giveBack client) (server.giveBack client visit guard outcome transport)
  | trigger (hcoordinated : server.signal.coordinated = true) :
      Effect server .trigger { server with signal := (server.signal.step .trigger).2 }
  | dropCoordinator (hcoordinated : server.signal.coordinated = true) :
      Effect server .dropCoordinator
        { server with signal := (server.signal.step .dropCoordinator).2 }
  | stop {listener : Nat} {listening stopped : Listening}
      (hlistening : server.listeners[listener]? = some listening)
      (hstop : listening.stop? = some stopped) (hover : server.signal.isOver = true) :
      Effect server (.stop listener)
        ({ server with listeners := server.listeners.set listener stopped }.turnAway listener)
  | leave (hreturned : server.returned = false)
      (hstopped : ∀ listening ∈ server.listeners, listening.loop = .stopped) :
      Effect server .leave
        { server with returned := true, log := server.log ++ [server.leaveEntry] }

theorem effect_of_look {server : Server} {client : Nat} {visit : Visit} {listening : Listening}
    {guard : Guard} {progress : Sniff.Progress Duplex}
    (hvisit : server.visits[client]? = some visit)
    (hlistening : server.listeners[visit.listener]? = some listening)
    (hstage : visit.stage = .sniffing guard progress)
    (hready : canLook progress listening.binding.policy = true) :
    Effect server (.look client) (server.look client visit listening.binding guard progress) := by
  rw [look]
  cases hlook : Look.once server.headerTimeout progress listening.binding.policy with
  | more next => exact .more hvisit hlistening hstage hready hlook
  | rejected failure transport => exact .reject hvisit hlistening hstage hready hlook
  | accepted header stream => exact .handOver hvisit hlistening hstage hready hlook

/-- An event that is possible has its effect. -/
theorem effect_of_step? {server next : Server} {event : Event}
    (h : server.step? event = some next) : Effect server event next := by
  cases event with
  | connect listener peer =>
    simp only [step?, Option.ite_none_right_eq_some, Option.some.injEq] at h
    obtain ⟨hopen, rfl⟩ := h
    exact .connect hopen
  | arrive client step =>
    simp only [step?, Option.bind_eq_bind, Option.bind_eq_some_iff] at h
    obtain ⟨_, hvisit, h⟩ := h
    obtain ⟨visit, hvisit, _⟩ := Option.map_eq_some_iff.mp hvisit
    cases h
    exact .arrive hvisit
  | claim listener =>
    simp only [step?, Option.bind_eq_bind, Option.bind_eq_some_iff] at h
    obtain ⟨listening, hlistening, claimed, hclaim, h⟩ := h
    cases h
    exact .claim hlistening hclaim
  | accept listener =>
    simp only [step?, Option.bind_eq_bind, Option.bind_eq_some_iff] at h
    obtain ⟨listening, hlistening, client, hfirst, visit, hvisit, h⟩ := h
    split at h
    · rename_i hstage
      obtain ⟨passed, hpass, h⟩ := Option.bind_eq_some_iff.mp h
      cases h
      exact .accept hlistening hfirst hvisit hstage hpass
    · cases h
  | failAccept listener reason =>
    simp only [step?, Option.bind_eq_bind, Option.bind_eq_some_iff] at h
    obtain ⟨listening, hlistening, given, hgive, h⟩ := h
    cases h
    exact .failAccept hlistening hgive
  | look client =>
    simp only [step?, Option.bind_eq_bind, Option.bind_eq_some_iff] at h
    obtain ⟨visit, hvisit, listening, hlistening, h⟩ := h
    split at h
    · rename_i hstage
      obtain ⟨hready, h⟩ := Option.ite_none_right_eq_some.mp h
      cases h
      exact effect_of_look hvisit hlistening hstage hready
    · cases h
  | use client operation =>
    simp only [step?, Option.bind_eq_bind, Option.bind_eq_some_iff] at h
    obtain ⟨visit, hvisit, h⟩ := h
    split at h
    · rename_i hstage
      obtain ⟨hready, h⟩ := Option.ite_none_right_eq_some.mp h
      cases h
      exact .use hvisit hstage hready
    · cases h
  | finish client ending =>
    simp only [step?, Option.bind_eq_bind, Option.bind_eq_some_iff] at h
    obtain ⟨visit, hvisit, h⟩ := h
    split at h
    · rename_i hstage
      cases h
      exact .finish hvisit hstage
    · cases h
  | dropGuard client =>
    simp only [step?, Option.bind_eq_bind, Option.bind_eq_some_iff] at h
    obtain ⟨visit, hvisit, h⟩ := h
    split at h
    · rename_i hstage
      cases h
      exact .dropGuard hvisit hstage
    · cases h
  | giveBack client =>
    simp only [step?, Option.bind_eq_bind, Option.bind_eq_some_iff] at h
    obtain ⟨visit, hvisit, h⟩ := h
    split at h
    · rename_i hstage
      cases h
      exact .giveBack hvisit hstage
    · cases h
  | trigger =>
    obtain ⟨hcoordinated, h⟩ := Option.ite_none_right_eq_some.mp h
    cases h
    exact .trigger hcoordinated
  | dropCoordinator =>
    obtain ⟨hcoordinated, h⟩ := Option.ite_none_right_eq_some.mp h
    cases h
    exact .dropCoordinator hcoordinated
  | stop listener =>
    simp only [step?, Option.bind_eq_bind, Option.bind_eq_some_iff] at h
    obtain ⟨listening, hlistening, stopped, hstop, h⟩ := h
    obtain ⟨hover, h⟩ := Option.ite_none_right_eq_some.mp h
    cases h
    exact .stop hlistening hstop hover
  | leave =>
    obtain ⟨⟨hreturned, hstopped⟩, h⟩ := Option.ite_none_right_eq_some.mp h
    cases h
    exact .leave (by simpa using hreturned) hstopped

/-! ## Runs -/

theorem run?_append_eq_some {start last : Server} {events : List Event} {event : Event}
    (h : start.run? (events ++ [event]) = some last) :
    ∃ server, start.run? events = some server ∧ server.step? event = some last := by
  rw [run?, List.foldlM_append] at h
  obtain ⟨server, hserver, hlast⟩ := Option.bind_eq_some_iff.mp h
  obtain ⟨next, hnext, hsame⟩ := Option.bind_eq_some_iff.mp hlast
  cases hsame
  exact ⟨server, hserver, hnext⟩

/-- What holds at the start and is kept by every event of a run holds at its end. -/
theorem run_induction {start : Server} {p : List Event → Server → Prop} (nil : p [] start)
    (step : ∀ events event server next, start.run? events = some server → p events server →
      Effect server event next → p (events ++ [event]) next)
    {events : List Event} {server : Server} (h : start.run? events = some server) :
    p events server := by
  -- From the back, so that the history of a state is a run of its own.
  induction events using List.reverseRecOn generalizing server with
  | nil =>
    cases h
    exact nil
  | append_singleton events event ih =>
    obtain ⟨before, hbefore, hstep⟩ := run?_append_eq_some h
    exact step events event before server hbefore (ih hbefore) (effect_of_step? hstep)

/-! ## What stays -/

theorem Listening.binding_of_claim? {listening claimed : Listening}
    (h : listening.claim? = some claimed) : claimed.binding = listening.binding := by
  obtain ⟨_, h⟩ := Option.ite_none_right_eq_some.mp h
  cases h
  rfl

theorem Listening.binding_of_pass? {listening passed : Listening}
    (h : listening.pass? = some passed) : passed.binding = listening.binding := by
  obtain ⟨_, h⟩ := Option.ite_none_right_eq_some.mp h
  cases h
  rfl

theorem Listening.binding_of_giveUp? {listening given : Listening}
    (h : listening.giveUp? = some given) : given.binding = listening.binding := by
  obtain ⟨_, h⟩ := Option.ite_none_right_eq_some.mp h
  cases h
  rfl

theorem Listening.binding_of_stop? {listening stopped : Listening}
    (h : listening.stop? = some stopped) : stopped.binding = listening.binding := by
  rw [stop?] at h
  split at h <;> cases h <;> rfl

/-- A change of one item leaves alone what the change keeps. -/
theorem map_modify_of_same {α β : Type} {items : List α} {index : Nat} {change : α → α} {f : α → β}
    (h : ∀ item, items[index]? = some item → f (change item) = f item) :
    (items.modify index change).map f = items.map f := by
  refine List.ext_getElem? fun position => ?_
  rw [List.getElem?_map, List.getElem?_modify, List.getElem?_map]
  cases hitem : items[position]? with
  | none => rfl
  | some item =>
    by_cases hsame : index = position
    · subst hsame
      simpa using h item hitem
    · simp [hsame]

theorem map_binding_set {listeners : List Listening} {index : Nat} {listening changed : Listening}
    (hlistening : listeners[index]? = some listening)
    (hbinding : changed.binding = listening.binding) :
    (listeners.set index changed).map (·.binding) = listeners.map (·.binding) := by
  rw [List.set_eq_modify]
  refine map_modify_of_same fun item hitem => ?_
  rw [hlistening, Option.some.injEq] at hitem
  rw [hbinding, hitem]

/-- No event changes where listeners are and what they demand, or the time for a header. -/
theorem Effect.settings {server next : Server} {event : Event} (h : Effect server event next) :
    next.headerTimeout = server.headerTimeout ∧
      next.listeners.map (·.binding) = server.listeners.map (·.binding) := by
  cases h with
  | claim hlistening hclaim =>
    exact ⟨rfl, map_binding_set hlistening (Listening.binding_of_claim? hclaim)⟩
  | accept hlistening _ _ _ hpass =>
    exact ⟨rfl, map_binding_set hlistening (Listening.binding_of_pass? hpass)⟩
  | failAccept hlistening hgive =>
    exact ⟨rfl, map_binding_set hlistening (Listening.binding_of_giveUp? hgive)⟩
  | stop hlistening hstop _ =>
    exact ⟨rfl, map_binding_set hlistening (Listening.binding_of_stop? hstop)⟩
  | giveBack => exact ⟨rfl, map_modify_of_same fun _ _ => rfl⟩
  | connect | arrive | more | reject | handOver | use | finish | dropGuard | trigger
  | dropCoordinator | leave => exact ⟨rfl, rfl⟩

theorem settings_of_run {start server : Server} {events : List Event}
    (h : start.run? events = some server) :
    server.headerTimeout = start.headerTimeout ∧
      server.listeners.map (·.binding) = start.listeners.map (·.binding) := by
  refine run_induction (p := fun _ server => server.headerTimeout = start.headerTimeout ∧
    server.listeners.map (·.binding) = start.listeners.map (·.binding)) ⟨rfl, rfl⟩ ?_ h
  intro _ _ _ _ _ ih heffect
  exact ⟨heffect.settings.1.trans ih.1, heffect.settings.2.trans ih.2⟩

theorem lt_of_isOpen {server : Server} {listener : Nat} (hopen : server.isOpen listener = true) :
    listener < server.listeners.length := by
  rw [isOpen] at hopen
  split at hopen
  · rename_i hlistening
    exact (List.getElem?_eq_some_iff.mp hlistening).1
  · cases hopen

/-- In a run of a server that was opened with some listeners, these are its listeners. -/
theorem settings_of_run_ofBindings {headerTimeout : Nat} {bindings : List Config.Binding}
    {events : List Event} {server : Server}
    (h : (ofBindings headerTimeout bindings).run? events = some server) :
    server.headerTimeout = headerTimeout ∧ server.listeners.map (·.binding) = bindings := by
  obtain ⟨htimeout, hlisteners⟩ := settings_of_run h
  refine ⟨htimeout, hlisteners.trans ?_⟩
  rw [ofBindings, List.map_map]
  exact List.map_id _

end ProxyGate.Server
