import ProxyGate.Proofs.Server.Effect

/-!
# What happens to one client

`Turn` is an event as one client sees it: what becomes of the client, and what of it is handed over.
`turns_of_effect` says that every event of a server is one for each of its clients, and
`life_induction` is the induction over the life of a client that follows.
-/

namespace ProxyGate.Server

open Connection (Guard Origin)
open ProxyGate.Stream (Duplex Replay)

/-- The client that an event names. -/
def Event.client? : Event → Option Nat
  | .arrive client _ | .look client | .use client _ | .finish client _ | .dropGuard client
  | .giveBack client => some client
  | .connect _ _ | .claim _ | .accept _ | .failAccept _ _ | .trigger | .dropCoordinator | .stop _
  | .leave => none

/-- The connections of a client that were handed over. -/
def handedOver (server : Server) (client : Nat) : List Handover :=
  server.handovers.filter fun handover => handover.client = client

/-- What an event does to one client: the client after it, and what was handed over of it. -/
inductive Turn (server : Server) (client : Nat) (visit : Visit) :
    Event → Visit → List Handover → Prop where
  /-- The event is about others. -/
  | rest {event : Event} (hevent : event.client? ≠ some client) :
      Turn server client visit event visit []
  | arrive (step : Stream.Step) :
      Turn server client visit (.arrive client step)
        { visit with stage := visit.stage.mapTransport (·.push step) } []
  | accept {listening : Listening} {transport : Duplex}
      (hlistening : server.listeners[visit.listener]? = some listening)
      (hfirst : server.firstWaiting? visit.listener = some client)
      (hstage : visit.stage = .waiting transport) :
      Turn server client visit (.accept visit.listener)
        { visit with
          stage :=
            .sniffing (.start server.nextId listening.binding.policy) (.start transport) } []
  | more {listening : Listening} {guard : Guard} {progress next : Sniff.Progress Duplex}
      (hlistening : server.listeners[visit.listener]? = some listening)
      (hstage : visit.stage = .sniffing guard progress)
      (hready : canLook progress listening.binding.policy = true)
      (hlook : Look.once server.headerTimeout progress listening.binding.policy = .more next) :
      Turn server client visit (.look client) { visit with stage := .sniffing guard next } []
  | reject {listening : Listening} {guard : Guard} {progress : Sniff.Progress Duplex}
      {failure : Sniff.Failure} {transport : Duplex}
      (hlistening : server.listeners[visit.listener]? = some listening)
      (hstage : visit.stage = .sniffing guard progress)
      (hready : canLook progress listening.binding.policy = true)
      (hlook : Look.once server.headerTimeout progress listening.binding.policy =
        .rejected failure transport) :
      Turn server client visit (.look client)
        { visit with
          stage := .over (guard.change .failed).1 (.rejected failure) transport .guarded } []
  | handOver {listening : Listening} {guard : Guard} {progress : Sniff.Progress Duplex}
      {header : Option Header} {stream : Replay Duplex} {origin : Origin}
      (hlistening : server.listeners[visit.listener]? = some listening)
      (hstage : visit.stage = .sniffing guard progress)
      (hready : canLook progress listening.binding.policy = true)
      (hlook : Look.once server.headerTimeout progress listening.binding.policy =
        .accepted header stream)
      (horigin : origin = ⟨guard.id, visit.peer, listening.binding.address, header⟩) :
      Turn server client visit (.look client)
        { visit with
          stage := .serving (changeAll guard (phasesTo listening.binding.policy)).1 origin stream }
        [⟨client, origin, stream⟩]
  | use {guard : Guard} {origin : Origin} {stream : Replay Duplex} {operation : Stream.Operation}
      (hstage : visit.stage = .serving guard origin stream)
      (hready : stream.isReady operation = true) :
      Turn server client visit (.use client operation)
        { visit with
          stage := .serving guard origin (stream.step operation).2
          answers := visit.answers ++ [(stream.step operation).1] } []
  | finish {guard : Guard} {origin : Origin} {stream : Replay Duplex} {ending : Ending}
      (hstage : visit.stage = .serving guard origin stream) :
      Turn server client visit (.finish client ending)
        { visit with stage := .over guard (.served origin ending) stream.inner .guarded } []
  | dropGuard {guard : Guard} {outcome : Outcome} {transport : Duplex}
      (hstage : visit.stage = .over guard outcome transport .guarded) :
      Turn server client visit (.dropGuard client)
        { visit with stage := .over guard outcome transport .slotHeld } []
  | giveBack {guard : Guard} {outcome : Outcome} {transport : Duplex}
      (hstage : visit.stage = .over guard outcome transport .slotHeld) :
      Turn server client visit (.giveBack client)
        { visit with stage := .over guard outcome transport .finished } []
  | refuse {transport : Duplex} (hstage : visit.stage = .waiting transport) :
      Turn server client visit (.stop visit.listener) { visit with stage := .refused } []

theorem Turn.same {server : Server} {client : Nat} {visit later : Visit} {event : Event}
    {new : List Handover} (h : Turn server client visit event later new) :
    later.listener = visit.listener ∧ later.peer = visit.peer := by
  cases h <;> exact ⟨rfl, rfl⟩

/-- A client takes its turn in an event. -/
def Turns (server next : Server) (event : Event) (client : Nat) (visit : Visit) : Prop :=
  ∃ later new, Turn server client visit event later new ∧ next.visits[client]? = some later ∧
    next.handedOver client = server.handedOver client ++ new

variable {server next : Server} {event : Event}

theorem turns_of_same {client : Nat} {visit : Visit} (hvisit : server.visits[client]? = some visit)
    (hevent : event.client? ≠ some client)
    (hvisits : next.visits[client]? = server.visits[client]?)
    (hhandedOver : next.handedOver client = server.handedOver client) :
    Turns server next event client visit :=
  ⟨visit, [], .rest hevent, hvisits.trans hvisit, by rw [hhandedOver, List.append_nil]⟩

/-- An event that changes one client is a turn for all. -/
theorem turns_of_modify {changed client : Nat} {before visit : Visit} {change : Visit → Visit}
    {new : List Handover} (hbefore : server.visits[changed]? = some before)
    (hevent : event.client? = some changed ∨ event.client? = none)
    (hvisits : next.visits = server.visits.modify changed change)
    (hhandovers : next.handovers = server.handovers ++ new)
    (hnew : ∀ handover ∈ new, handover.client = changed)
    (hturn : Turn server changed before event (change before) new)
    (hvisit : server.visits[client]? = some visit) : Turns server next event client visit := by
  by_cases hsame : changed = client
  · subst hsame
    rw [hbefore, Option.some.injEq] at hvisit
    subst hvisit
    refine ⟨_, _, hturn, ?_, ?_⟩
    · rw [hvisits, List.getElem?_modify, hbefore]
      simp
    · have hall : new.filter (fun handover => handover.client = changed) = new :=
        List.filter_eq_self.mpr fun handover hmem => decide_eq_true (hnew handover hmem)
      rw [handedOver, handedOver, hhandovers, List.filter_append, hall]
  · -- Neither the changed place nor a new record is one of this client.
    have hother : event.client? ≠ some client := by
      rcases hevent with hevent | hevent <;> rw [hevent]
      · exact fun h => hsame (Option.some.inj h)
      · nofun
    refine turns_of_same hvisit hother ?_ ?_
    · rw [hvisits, List.getElem?_modify]
      simp [hsame]
    · rw [handedOver, handedOver, hhandovers, List.filter_append, List.append_right_eq_self,
        List.filter_eq_nil_iff]
      intro handover hmem
      simp [hnew handover hmem, hsame]

theorem turns_of_change {changed client : Nat} {before visit : Visit} {change : Visit → Visit}
    (hbefore : server.visits[changed]? = some before)
    (hevent : event.client? = some changed ∨ event.client? = none)
    (hvisits : next.visits = server.visits.modify changed change)
    (hhandovers : next.handovers = server.handovers)
    (hturn : Turn server changed before event (change before) [])
    (hvisit : server.visits[client]? = some visit) : Turns server next event client visit :=
  turns_of_modify hbefore hevent hvisits (by rw [hhandovers, List.append_nil])
    (fun _ hmem => absurd hmem List.not_mem_nil) hturn hvisit

theorem Stage.isWaiting_iff {stage : Stage} :
    stage.isWaiting = true ↔ ∃ transport, stage = .waiting transport := by
  cases stage <;> simp [isWaiting]

/-- The first client that waits at a listener is a client of it. -/
theorem listener_of_firstWaiting? {listener client : Nat} {visit : Visit}
    (hfirst : server.firstWaiting? listener = some client)
    (hvisit : server.visits[client]? = some visit) : visit.listener = listener := by
  obtain ⟨hlt, hfound, _⟩ := List.findIdx?_eq_some_iff_getElem.mp hfirst
  obtain ⟨_, hsame⟩ := List.getElem?_eq_some_iff.mp hvisit
  rw [hsame, Bool.and_eq_true, decide_eq_true_eq] at hfound
  exact hfound.1

/-- Every event is a turn for every client. -/
theorem turns_of_effect (h : Effect server event next) {client : Nat} {visit : Visit}
    (hvisit : server.visits[client]? = some visit) : Turns server next event client visit := by
  cases h with
  | connect hopen =>
    refine turns_of_same hvisit nofun ?_ rfl
    exact List.getElem?_append_left (List.getElem?_eq_some_iff.mp hvisit).1
  | claim | failAccept | trigger | dropCoordinator | leave =>
    exact turns_of_same hvisit nofun rfl rfl
  | arrive hbefore =>
    exact turns_of_change hbefore (.inl rfl) rfl rfl (.arrive _) hvisit
  | accept hlistening hfirst hbefore hstage hpass =>
    have hlistener := listener_of_firstWaiting? hfirst hbefore
    subst hlistener
    exact turns_of_change hbefore (.inr rfl) rfl rfl (.accept hlistening hfirst hstage) hvisit
  | more hbefore hlistening hstage hready hlook =>
    exact turns_of_change hbefore (.inl rfl) rfl rfl
      (.more hlistening hstage hready hlook) hvisit
  | reject hbefore hlistening hstage hready hlook =>
    exact turns_of_change hbefore (.inl rfl) rfl rfl
      (.reject hlistening hstage hready hlook) hvisit
  | handOver hbefore hlistening hstage hready hlook =>
    exact turns_of_modify hbefore (.inl rfl) rfl rfl (by simp)
      (.handOver hlistening hstage hready hlook rfl) hvisit
  | use hbefore hstage hready =>
    exact turns_of_change hbefore (.inl rfl) rfl rfl (.use hstage hready) hvisit
  | finish hbefore hstage =>
    exact turns_of_change hbefore (.inl rfl) rfl rfl (.finish hstage) hvisit
  | dropGuard hbefore hstage =>
    exact turns_of_change hbefore (.inl rfl) rfl rfl (.dropGuard hstage) hvisit
  | giveBack hbefore hstage =>
    exact turns_of_change hbefore (.inl rfl) rfl rfl (.giveBack hstage) hvisit
  | @stop listener listening stopped =>
    by_cases hwaits : visit.listener = listener ∧ visit.stage.isWaiting = true
    · obtain ⟨rfl, hwaiting⟩ := hwaits
      obtain ⟨transport, hstage⟩ := Stage.isWaiting_iff.mp hwaiting
      refine ⟨_, [], .refuse hstage, ?_, (List.append_nil _).symm⟩
      rw [turnAway, List.getElem?_map, hvisit, Option.map_some, if_pos ⟨rfl, hwaiting⟩]
    · refine turns_of_same hvisit nofun ?_ rfl
      rw [turnAway, List.getElem?_map, hvisit, Option.map_some, if_neg hwaits]

/-! ## New clients -/

/-- The clients stay, and only a connection makes a new one. -/
theorem visits_of_effect (h : Effect server event next) :
    next.visits.length = server.visits.length ∨
      ∃ listener peer, event = .connect listener peer ∧ server.isOpen listener = true ∧
        next.visits = server.visits ++ [.start listener peer] := by
  cases h with
  | connect hopen => exact .inr ⟨_, _, rfl, hopen, rfl⟩
  | claim | failAccept | trigger | dropCoordinator | leave => exact .inl rfl
  | arrive | accept | more | reject | handOver | use | finish | dropGuard | giveBack =>
    exact .inl (List.length_modify _ _ _)
  | stop => exact .inl (List.length_map _)

/-- A client that an event makes has connected in it. -/
theorem new_of_effect (h : Effect server event next) {client : Nat} {visit : Visit}
    (hnone : server.visits[client]? = none) (hvisit : next.visits[client]? = some visit) :
    ∃ listener peer, event = .connect listener peer ∧ server.isOpen listener = true ∧
      visit = .start listener peer := by
  rcases visits_of_effect h with hlength | ⟨listener, peer, hevent, hopen, hnext⟩
  · rw [List.getElem?_eq_none_iff, ← hlength, ← List.getElem?_eq_none_iff, hvisit] at hnone
    cases hnone
  · rw [hnext, List.getElem?_append_right (List.getElem?_eq_none_iff.mp hnone)] at hvisit
    exact ⟨listener, peer, hevent, hopen, List.mem_singleton.mp (List.mem_of_getElem? hvisit)⟩

/-- A client that has not come is not named by an event, and nothing of it is handed over. -/
theorem absent_of_effect (h : Effect server event next) {client : Nat}
    (hnone : server.visits[client]? = none) :
    event.client? ≠ some client ∧ next.handedOver client = server.handedOver client := by
  have hother : ∀ {changed visit}, server.visits[changed]? = some visit → changed ≠ client := by
    rintro changed visit hvisit rfl
    rw [hnone] at hvisit
    cases hvisit
  cases h with
  | connect | claim | accept | failAccept | trigger | dropCoordinator | stop | leave =>
    exact ⟨nofun, rfl⟩
  | arrive hvisit | more hvisit | reject hvisit | use hvisit | finish hvisit | dropGuard hvisit
  | giveBack hvisit =>
    exact ⟨fun hsame => hother hvisit (Option.some.inj hsame), rfl⟩
  | handOver hvisit =>
    refine ⟨fun hsame => hother hvisit (Option.some.inj hsame), ?_⟩
    rw [handedOver, handedOver, Server.handOver, List.filter_append]
    simp [hother hvisit]

variable {start : Server} {events : List Event}

theorem absent_of_run (hhandovers : start.handovers = [])
    (h : start.run? events = some server) {client : Nat} (hnone : server.visits[client]? = none) :
    (∀ event ∈ events, event.client? ≠ some client) ∧ server.handedOver client = [] := by
  refine run_induction (p := fun events server => server.visits[client]? = none →
    (∀ event ∈ events, event.client? ≠ some client) ∧ server.handedOver client = []) ?_ ?_ h hnone
  · exact fun _ => ⟨nofun, by rw [handedOver, hhandovers, List.filter_nil]⟩
  · intro events event server next _ ih heffect hnone
    have hbefore : server.visits[client]? = none := by
      rw [List.getElem?_eq_none_iff] at hnone ⊢
      rcases visits_of_effect heffect with hlength | ⟨_, _, _, _, hvisits⟩
      · rwa [hlength] at hnone
      · rw [hvisits, List.length_append] at hnone
        omega
    obtain ⟨hevents, hnothing⟩ := ih hbefore
    obtain ⟨hevent, hhandedOver⟩ := absent_of_effect heffect hbefore
    refine ⟨fun other hmem => ?_, hhandedOver.trans hnothing⟩
    rcases List.mem_append.mp hmem with hmem | hmem
    · exact hevents other hmem
    · rw [List.mem_singleton.mp hmem]
      exact hevent

/-- What holds of a client when it connects, and is kept by every turn, holds of it for life. -/
theorem life_induction (hvisits : start.visits = []) (hhandovers : start.handovers = [])
    {client : Nat} {p : List Event → Visit → List Handover → Prop}
    (connect : ∀ events server listener peer, start.run? events = some server →
      server.isOpen listener = true → (∀ event ∈ events, event.client? ≠ some client) →
      p (events ++ [.connect listener peer]) (.start listener peer) [])
    (turn : ∀ events event server visit later handed new, start.run? events = some server →
      p events visit handed → Turn server client visit event later new →
      p (events ++ [event]) later (handed ++ new))
    (h : start.run? events = some server) {visit : Visit}
    (hvisit : server.visits[client]? = some visit) : p events visit (server.handedOver client) := by
  refine run_induction (p := fun events server => ∀ visit, server.visits[client]? = some visit →
    p events visit (server.handedOver client)) ?_ ?_ h visit hvisit
  · intro visit hvisit
    rw [hvisits] at hvisit
    cases hvisit
  · intro events event server next hrun ih heffect visit hvisit
    cases hbefore : server.visits[client]? with
    | some before =>
      obtain ⟨later, new, hturn, hlater, hhandedOver⟩ := turns_of_effect heffect hbefore
      rw [hvisit, Option.some.injEq] at hlater
      subst hlater
      rw [hhandedOver]
      exact turn events event server before visit _ new hrun (ih before hbefore) hturn
    | none =>
      -- The client is new, and nothing before this event was about it.
      obtain ⟨hevents, hnothing⟩ := absent_of_run hhandovers hrun hbefore
      rw [(absent_of_effect heffect hbefore).2, hnothing]
      obtain ⟨listener, peer, rfl, hopen, rfl⟩ := new_of_effect heffect hbefore hvisit
      exact connect events server listener peer hrun hopen hevents

end ProxyGate.Server
