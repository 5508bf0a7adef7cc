import ProxyGate.Proofs.Server.Turn

/-!
# What a run leaves behind

An event that can have its effect is possible: `step?_of_effect`.  `collect` gathers what the events
of a run leave, each by the server before and after it, and `collect_append` says what the last event
of a run adds to it.  `client_induction` is the induction over the events of a run as one client sees
them.
-/

namespace ProxyGate.Server

open Connection (Guard)
open ProxyGate.Stream (Duplex)

variable {server next : Server} {event : Event}

/-- An event that can have its effect is possible. -/
theorem step?_of_effect (h : Effect server event next) : server.step? event = some next := by
  cases h with
  | connect hopen => simp [step?, hopen]
  | arrive hvisit =>
    rw [step?, hvisit]
    rfl
  | claim hlistening hclaim => simp [step?, hlistening, hclaim]
  | accept hlistening hfirst hvisit hstage hpass =>
    simp [step?, hlistening, hfirst, hvisit, hstage, hpass]
  | failAccept hlistening hgive => simp [step?, hlistening, hgive]
  | more hvisit hlistening hstage hready hlook =>
    simp [step?, hvisit, hlistening, hstage, hready, look, hlook]
  | reject hvisit hlistening hstage hready hlook =>
    simp [step?, hvisit, hlistening, hstage, hready, look, hlook]
  | handOver hvisit hlistening hstage hready hlook =>
    simp [step?, hvisit, hlistening, hstage, hready, look, hlook]
  | use hvisit hstage hready => simp [step?, hvisit, hstage, hready]
  | finish hvisit hstage => simp [step?, hvisit, hstage]
  | dropGuard hvisit hstage => simp [step?, hvisit, hstage]
  | giveBack hvisit hstage => simp [step?, hvisit, hstage]
  | trigger hcoordinated => simp [step?, hcoordinated]
  | dropCoordinator hcoordinated => simp [step?, hcoordinated]
  | stop hlistening hstop hover => simp [step?, hlistening, hstop, hover]
  | leave hreturned hstopped => exact if_pos ⟨by simp [hreturned], hstopped⟩

theorem run?_cons (h : Effect server event next) (rest : List Event) :
    server.run? (event :: rest) = next.run? rest := by
  rw [run?, List.foldlM_cons, step?_of_effect h]
  rfl

theorem run?_append {start : Server} {events : List Event} (h : start.run? events = some server)
    (rest : List Event) : start.run? (events ++ rest) = server.run? rest := by
  rw [run?] at h
  rw [run?, List.foldlM_append, h]
  rfl

/-- In a run the listeners stay what they were opened as. -/
theorem binding_of_run {headerTimeout : Nat} {bindings : List Config.Binding}
    {events : List Event} (h : (ofBindings headerTimeout bindings).run? events = some server)
    {index : Nat} {binding : Config.Binding} (hbinding : bindings[index]? = some binding)
    {listening : Listening} (hlistening : server.listeners[index]? = some listening) :
    listening.binding = binding := by
  rw [← (settings_of_run_ofBindings h).2, List.getElem?_map, hlistening, Option.map_some,
    Option.some.injEq] at hbinding
  exact hbinding

/-! ## Histories -/

variable {α : Type} (f : Server → Event → Server → List α)

/-- What the events of a run leave, each by the server before and after it. -/
def collect (server : Server) : List Event → List α
  | [] => []
  | event :: rest =>
    match server.step? event with
    | some next => f server event next ++ collect next rest
    | none => []

theorem collect_cons (h : server.step? event = some next) (rest : List Event) :
    collect f server (event :: rest) = f server event next ++ collect f next rest := by
  rw [collect, h]

/-- Events that leave nothing leave nothing together. -/
theorem collect_eq_nil {events : List Event}
    (h : ∀ event ∈ events, ∀ server next, f server event next = []) (start : Server) :
    collect f start events = [] := by
  induction events generalizing start with
  | nil => rfl
  | cons first rest ih =>
    rw [collect]
    cases start.step? first with
    | none => rfl
    | some second =>
      dsimp only
      rw [h first List.mem_cons_self, List.nil_append]
      exact ih (fun event hmem => h event (List.mem_cons_of_mem _ hmem)) second

/-- The last event of a run leaves something behind all others. -/
theorem collect_append {start : Server} {events : List Event}
    (hrun : start.run? events = some server) (h : Effect server event next) :
    collect f start (events ++ [event]) = collect f start events ++ f server event next := by
  induction events generalizing start with
  | nil =>
    cases hrun
    rw [List.nil_append, collect_cons f (step?_of_effect h)]
    exact List.append_nil _
  | cons first rest ih =>
    obtain ⟨second, hfirst, hrest⟩ := Option.bind_eq_some_iff.mp hrun
    rw [List.cons_append, collect_cons f hfirst, collect_cons f hfirst, ih hrest,
      List.append_assoc]

/-! ## Clients -/

/-- What holds of a client that no event has named, and is kept by every event, holds of it in every
run.  This is `life_induction` with the servers before and after an event. -/
theorem client_induction {start : Server} (hvisits : start.visits = [])
    (hhandovers : start.handovers = []) {client : Nat} {p : List Event → Visit → Prop}
    (connect : ∀ events listener peer, (∀ event ∈ events, event.client? ≠ some client) →
      p events (.start listener peer))
    (turn : ∀ events event server next visit later new, start.run? events = some server →
      Effect server event next → server.visits[client]? = some visit →
      next.visits[client]? = some later → Turn server client visit event later new →
      p events visit → p (events ++ [event]) later)
    {events : List Event} (h : start.run? events = some server) {visit : Visit}
    (hvisit : server.visits[client]? = some visit) : p events visit := by
  refine run_induction (p := fun events server => ∀ visit, server.visits[client]? = some visit →
    p events visit) ?_ ?_ h visit hvisit
  · intro visit hvisit
    rw [hvisits] at hvisit
    cases hvisit
  · intro events event server next hrun ih heffect later hlater
    cases hvisit : server.visits[client]? with
    | some visit =>
      obtain ⟨_, new, hturn, hsame, _⟩ := turns_of_effect heffect hvisit
      cases hlater.symm.trans hsame
      exact turn events event server next visit later new hrun heffect hvisit hlater hturn
        (ih visit hvisit)
    | none =>
      -- The client is new, and neither this event nor one before it has named it.
      obtain ⟨hevents, _⟩ := absent_of_run hhandovers hrun hvisit
      obtain ⟨listener, peer, rfl, _, rfl⟩ := new_of_effect heffect hvisit hlater
      refine connect _ listener peer fun event hmem => ?_
      rcases List.mem_append.mp hmem with hmem | hmem
      · exact hevents event hmem
      · rw [List.mem_singleton.mp hmem]
        nofun

end ProxyGate.Server
