import ProxyGate.Proofs.Server.Settled
import ProxyGate.Proofs.Server.Slots

/-!
# One client alone

`Event.alone` is what is left of an event when one client is alone with the listener that it came
to.  Of these events a server with that listener alone has a run, and at its end the client is what
it is among the others, up to its number: `Mirrors` says so for one moment, and `mirrored_of_run`
for every run.

`clients_independent` puts this together with what a client comes to.
-/

namespace ProxyGate.Server

open Connection (Guard Origin Phase)
open ProxyGate.Stream (Duplex Replay)

/-! ## Without the others -/

/-- The same outcome of a connection with another number. -/
def Outcome.renumber (id : Nat) : Outcome → Outcome
  | .rejected failure => .rejected failure
  | .served origin ending => .served { origin with id } ending

/-- The same stage of a connection with another number. -/
def Stage.renumber (id : Nat) : Stage → Stage
  | .waiting transport => .waiting transport
  | .refused => .refused
  | .sniffing guard progress => .sniffing { guard with id } progress
  | .serving guard origin stream => .serving { guard with id } { origin with id } stream
  | .over guard outcome transport cleanup =>
    .over { guard with id } (outcome.renumber id) transport cleanup

/-- A client as it is when it is alone: the first connection of the only listener. -/
def Visit.alone (visit : Visit) : Visit :=
  { visit with listener := 0, stage := visit.stage.renumber 1 }

/-- A connection as it is handed over when it is alone. -/
def Handover.alone (handover : Handover) : Handover :=
  ⟨0, { handover.origin with id := 1 }, handover.stream⟩

/-- An event about a client, if it is about one, as one about the first. -/
def Event.first : Event → Event
  | .arrive _ step => .arrive 0 step
  | .look _ => .look 0
  | .use _ operation => .use 0 operation
  | .finish _ ending => .finish 0 ending
  | .dropGuard _ => .dropGuard 0
  | .giveBack _ => .giveBack 0
  | event => event

/-- What is left of an event when a client is alone: it connects, it is accepted as soon as it is
among the others, and what happens to it happens. -/
def Event.alone (client : Nat) (server : Server) (event : Event) (next : Server) : List Event :=
  match event with
  | .connect _ peer => if server.visits.length = client then [.connect 0 peer] else []
  | .accept _ =>
    if next.guardId? client = server.guardId? client then [] else [.claim 0, .accept 0]
  | event => if event.client? = some client then [event.first] else []

theorem renumber_mapTransport (id : Nat) (f : Duplex → Duplex) (stage : Stage) :
    (stage.mapTransport f).renumber id = (stage.renumber id).mapTransport f := by
  cases stage <;> rfl

theorem change_withId (guard : Guard) (id : Nat) (phase : Phase) :
    (Guard.change { guard with id } phase).1 = { (guard.change phase).1 with id } := by
  rw [Guard.change, Guard.change]
  dsimp only
  split <;> rfl

theorem changeAll_withId (guard : Guard) (id : Nat) (phases : List Phase) :
    (changeAll { guard with id } phases).1 = { (changeAll guard phases).1 with id } := by
  induction phases generalizing guard with
  | nil => rfl
  | cons phase rest ih =>
    rw [changeAll, changeAll]
    dsimp only
    rw [change_withId, ih]

/-! ## One turn -/

/-- A server that has one client of another, alone with its listener. -/
structure Mirrors (binding : Config.Binding) (visit : Visit) (handed : List Handover)
    (alone : Server) : Prop where
  listeners : ∃ free, alone.listeners = [⟨binding, free, .idle⟩] ∧
    (visit.stage.guard? = none → free = binding.maxConnections)
  visits : alone.visits = [visit.alone]
  handovers : alone.handovers = handed.map Handover.alone
  nextId : visit.stage.guard? = none → alone.nextId = 1

variable {binding : Config.Binding} {server next alone last : Server} {event : Event}
  {client : Nat} {visit later : Visit} {handed new : List Handover}

theorem Mirrors.of_modify {change : Visit → Visit} (h : Mirrors binding visit handed alone)
    (hvisits : last.visits = alone.visits.modify 0 change)
    (hchange : change visit.alone = later.alone)
    (hhandovers : last.handovers = alone.handovers ++ new.map Handover.alone)
    (hlisteners : ∃ free, last.listeners = [⟨binding, free, .idle⟩] ∧
      (later.stage.guard? = none → free = binding.maxConnections))
    (hnextId : later.stage.guard? = none → last.nextId = 1) :
    Mirrors binding later (handed ++ new) last := by
  refine ⟨hlisteners, ?_, by rw [hhandovers, h.handovers, List.map_append], hnextId⟩
  rw [hvisits, h.visits, ← hchange]
  rfl

/-- Nothing is asked of the listener once a client has been accepted. -/
theorem Mirrors.of_guarded {change : Visit → Visit} {guard : Guard}
    (h : Mirrors binding visit handed alone)
    (hvisits : last.visits = alone.visits.modify 0 change)
    (hchange : change visit.alone = later.alone)
    (hhandovers : last.handovers = alone.handovers ++ new.map Handover.alone)
    (hlisteners : ∃ free, last.listeners = [⟨binding, free, .idle⟩])
    (hguard : later.stage.guard? = some guard) : Mirrors binding later (handed ++ new) last := by
  obtain ⟨free, hfree⟩ := hlisteners
  have hnone : later.stage.guard? ≠ none := by
    rw [hguard]
    nofun
  exact h.of_modify hvisits hchange hhandovers ⟨free, hfree, fun h => absurd h hnone⟩
    fun h => absurd h hnone

theorem Mirrors.getElem? (h : Mirrors binding visit handed alone) :
    alone.visits[0]? = some visit.alone ∧
      ∃ listening, alone.listeners[0]? = some listening ∧ listening.binding = binding := by
  obtain ⟨free, hlisteners, _⟩ := h.listeners
  rw [h.visits, hlisteners]
  exact ⟨rfl, _, rfl, rfl⟩

/-- What comes from a client comes also when it is alone. -/
theorem Mirrors.arrive (h : Mirrors binding visit handed alone) (step : Stream.Step) :
    ∃ last, alone.run? [.arrive 0 step] = some last ∧
      Mirrors binding { visit with stage := visit.stage.mapTransport (·.push step) } handed
        last := by
  refine ⟨_, run?_cons (.arrive h.getElem?.1) [], ?_⟩
  rw [← List.append_nil handed]
  refine h.of_modify rfl ?_ (List.append_nil _).symm ?_ ?_
  · rw [Visit.alone, Visit.alone, renumber_mapTransport]
  · rw [Stage.guard?_mapTransport]
    exact h.listeners
  · rw [Stage.guard?_mapTransport]
    exact h.nextId

/-- A client that is accepted among others is accepted alone as well. -/
theorem Mirrors.accept {transport : Duplex} (h : Mirrors binding visit handed alone)
    (hstage : visit.stage = .waiting transport) (hslots : 0 < binding.maxConnections) (id : Nat) :
    ∃ last, alone.run? [.claim 0, .accept 0] = some last ∧
      Mirrors binding
        { visit with stage := .sniffing (.start id binding.policy) (.start transport) } handed
        last := by
  obtain ⟨free, hlisteners, hfree⟩ := h.listeners
  have hnone : visit.stage.guard? = none := by
    rw [hstage]
    rfl
  have hnextId := h.nextId hnone
  have hvisits := h.visits
  have hwaiting : visit.alone.stage = .waiting transport := by
    rw [Visit.alone, hstage]
    rfl
  let held : Listening := ⟨binding, free - 1, .holding⟩
  let claimed : Server := { alone with listeners := alone.listeners.set 0 held }
  have hidle : alone.listeners[0]? = some ⟨binding, free, .idle⟩ := by
    rw [hlisteners]
    rfl
  have hclaim : (⟨binding, free, .idle⟩ : Listening).claim? = some held :=
    if_pos ⟨rfl, by rw [hfree hnone]; exact hslots⟩
  have hheld : claimed.listeners[0]? = some held := by
    show (alone.listeners.set 0 held)[0]? = some held
    rw [hlisteners]
    rfl
  have hfirst : claimed.firstWaiting? 0 = some 0 := by
    show alone.visits.findIdx? _ = some 0
    rw [hvisits]
    have hlistener : visit.alone.listener = 0 := rfl
    simp [List.findIdx?_cons, hlistener, hwaiting, Stage.isWaiting]
  have hvisit : claimed.visits[0]? = some visit.alone := by
    show alone.visits[0]? = some visit.alone
    rw [hvisits]
    rfl
  refine ⟨_, (run?_cons (.claim hidle hclaim) _).trans
    (run?_cons (.accept hheld hfirst hvisit hwaiting rfl) []), ?_⟩
  rw [← List.append_nil handed]
  refine h.of_guarded rfl ?_ (List.append_nil _).symm ⟨free - 1, ?_⟩ rfl
  · show Visit.mk 0 visit.peer (.sniffing (.start alone.nextId binding.policy) (.start transport))
      visit.answers = _
    rw [hnextId]
    rfl
  · show (alone.listeners.set 0 held).set 0 _ = _
    rw [hlisteners]
    rfl

/-- What happens to a client that has been accepted happens alone as well. -/
theorem Mirrors.named (htimeout : alone.headerTimeout = server.headerTimeout)
    (hbinding : ∀ listening, server.listeners[visit.listener]? = some listening →
      listening.binding = binding)
    (h : Mirrors binding visit handed alone) (hturn : Turn server client visit event later new)
    (hevent : event.client? = some client) :
    ∃ last, alone.run? [event.first] = some last ∧ Mirrors binding later (handed ++ new) last := by
  obtain ⟨hvisit, listening, hlistening, rfl⟩ := h.getElem?
  obtain ⟨free, halone, _⟩ := h.listeners
  have hlisteners : ∃ free, alone.listeners = [⟨listening.binding, free, .idle⟩] := ⟨free, halone⟩
  have hstageOf : ∀ {stage}, visit.stage = stage → visit.alone.stage = stage.renumber 1 := by
    rintro _ rfl
    rfl
  cases hturn with
  | rest hother => exact absurd hevent hother
  | accept | refuse => cases hevent
  | arrive step =>
    rw [List.append_nil]
    exact h.arrive step
  | more hthere hstage hready hlook =>
    rw [hbinding _ hthere] at hready hlook
    rw [← htimeout] at hlook
    refine ⟨_, run?_cons (.more hvisit hlistening (hstageOf hstage) hready hlook) [], ?_⟩
    exact h.of_guarded rfl rfl (List.append_nil _).symm hlisteners rfl
  | @reject _ guard _ failure transport hthere hstage hready hlook =>
    rw [hbinding _ hthere] at hready hlook
    rw [← htimeout] at hlook
    refine ⟨_, run?_cons (.reject hvisit hlistening (hstageOf hstage) hready hlook) [], ?_⟩
    refine h.of_guarded rfl ?_ (List.append_nil _).symm hlisteners rfl
    show Visit.mk 0 visit.peer (.over (Guard.change { guard with id := 1 } .failed).1
      (.rejected failure) transport .guarded) visit.answers = _
    rw [change_withId]
    rfl
  | @handOver _ guard _ header stream _ hthere hstage hready hlook horigin =>
    rw [hbinding _ hthere] at hready hlook horigin
    rw [← htimeout] at hlook
    refine ⟨_, run?_cons (.handOver hvisit hlistening (hstageOf hstage) hready hlook) [], ?_⟩
    rw [hbinding _ hthere, horigin]
    refine h.of_guarded rfl ?_ rfl hlisteners rfl
    show Visit.mk 0 visit.peer (.serving
      (changeAll { guard with id := 1 } (phasesTo listening.binding.policy)).1
      ⟨1, visit.peer, listening.binding.address, header⟩ stream) visit.answers = _
    rw [changeAll_withId]
    rfl
  | use hstage hready =>
    refine ⟨_, run?_cons (.use hvisit (hstageOf hstage) hready) [], ?_⟩
    exact h.of_guarded rfl rfl (List.append_nil _).symm hlisteners rfl
  | finish hstage =>
    refine ⟨_, run?_cons (.finish hvisit (hstageOf hstage)) [], ?_⟩
    exact h.of_guarded rfl rfl (List.append_nil _).symm hlisteners rfl
  | dropGuard hstage =>
    refine ⟨_, run?_cons (.dropGuard hvisit (hstageOf hstage)) [], ?_⟩
    exact h.of_guarded rfl rfl (List.append_nil _).symm hlisteners rfl
  | giveBack hstage =>
    refine ⟨_, run?_cons (.giveBack hvisit (hstageOf hstage)) [], ?_⟩
    refine h.of_guarded rfl rfl (List.append_nil _).symm ⟨free + 1, ?_⟩ rfl
    show alone.listeners.modify 0 Listening.takeBack = _
    rw [halone]
    rfl

/-! ## What is left of an event -/

theorem alone_of_named (hevent : event.client? = some client) :
    event.alone client server next = [event.first] := by
  cases event with
  | connect | accept => cases hevent
  | _ => exact if_pos hevent

/-- Nothing is left of an event that is not about a client. -/
theorem alone_of_rest (hevent : event.client? ≠ some client)
    (hvisit : server.visits[client]? = some visit) (hlater : next.visits[client]? = some visit) :
    event.alone client server next = [] := by
  cases event with
  | connect listener peer =>
    have hlt := (List.getElem?_eq_some_iff.mp hvisit).1
    exact if_neg (Nat.ne_of_gt hlt)
  | accept listener => exact if_pos (by rw [guardId?, guardId?, hvisit, hlater])
  | claim | failAccept | trigger | dropCoordinator | stop | leave => rfl
  | arrive | look | use | finish | dropGuard | giveBack => exact if_neg hevent

/-- Nothing is left of an event after which a client has not come. -/
theorem alone_of_absent (h : Effect server event next) (hnone : next.visits[client]? = none) :
    event.alone client server next = [] := by
  have hbefore : server.visits[client]? = none := by
    rw [List.getElem?_eq_none_iff] at hnone ⊢
    rcases visits_of_effect h with hlength | ⟨_, _, _, _, hvisits⟩
    · rwa [hlength] at hnone
    · rw [hvisits, List.length_append] at hnone
      omega
  cases event with
  | connect listener peer =>
    refine if_neg ?_
    rintro rfl
    cases h with
    | connect => simp at hnone
  | accept listener => exact if_pos (by rw [guardId?, guardId?, hbefore, hnone])
  | claim | failAccept | trigger | dropCoordinator | stop | leave => rfl
  | arrive | look | use | finish | dropGuard | giveBack =>
    exact if_neg (absent_of_effect h hbefore).1

/-- A client is accepted only where there are slots. -/
theorem pos_of_accept {listener : Nat} {listening : Listening} (hbalanced : Balanced server)
    (h : Effect server (.accept listener) next)
    (hlistening : server.listeners[listener]? = some listening) :
    0 < listening.binding.maxConnections := by
  cases h with
  | accept hsame _ _ _ hpass =>
    cases hlistening.symm.trans hsame
    have hslots := hbalanced.slots listener listening hlistening
    have hpassed := Listening.slots_of_pass? hpass
    omega

/-! ## Runs -/

variable {headerTimeout : Nat} {bindings : List Config.Binding} {events : List Event}

/-- A client that comes is mirrored when it has come alone. -/
theorem mirrors_connect (headerTimeout : Nat) (binding : Config.Binding) (listener : Nat)
    (peer : Address.Socket) :
    ∃ last, (ofBindings headerTimeout [binding]).run? [.connect 0 peer] = some last ∧
      Mirrors binding (.start listener peer) [] last :=
  ⟨_, run?_cons (.connect rfl) [], ⟨_, rfl, fun _ => rfl⟩, rfl, rfl, fun _ => rfl⟩

/-- A turn of a client that is not turned away is mirrored. -/
theorem mirrors_of_turn (htimeout : alone.headerTimeout = server.headerTimeout)
    (hbalanced : Balanced server) (heffect : Effect server event next)
    (hbinding : ∀ listening, server.listeners[visit.listener]? = some listening →
      listening.binding = binding)
    (h : Mirrors binding visit handed alone) (hturn : Turn server client visit event later new)
    (hvisit : server.visits[client]? = some visit) (hlater : next.visits[client]? = some later)
    (hstage : later.stage ≠ .refused) :
    ∃ last, alone.run? (event.alone client server next) = some last ∧
      Mirrors binding later (handed ++ new) last := by
  by_cases hevent : event.client? = some client
  · rw [alone_of_named hevent]
    exact h.named htimeout hbinding hturn hevent
  · cases hturn with
    | rest =>
      rw [alone_of_rest hevent hvisit hlater, List.append_nil]
      exact ⟨alone, rfl, h⟩
    | refuse => exact absurd rfl hstage
    | @accept listening transport hlistening _ hwaiting =>
      have hslots := pos_of_accept hbalanced heffect hlistening
      have hnew : next.guardId? client ≠ server.guardId? client := by
        rw [guardId?, guardId?, hvisit, hlater, Option.bind_some, Option.bind_some, hwaiting]
        exact Option.some_ne_none _
      have halone : Event.alone client server (.accept visit.listener) next =
          [.claim 0, .accept 0] := if_neg hnew
      rw [hbinding _ hlistening] at hslots ⊢
      rw [halone, List.append_nil]
      exact h.accept hwaiting hslots _
    | arrive | more | reject | handOver | use | finish | dropGuard | giveBack =>
      exact absurd rfl hevent

/-- A client that was turned away stays so. -/
theorem refused_of_turn (hturn : Turn server client visit event later new)
    (hstage : visit.stage = .refused) : later.stage = .refused := by
  cases hturn with
  | rest => exact hstage
  | arrive => rw [hstage, Stage.mapTransport]
  | accept _ _ hother | more _ hother | reject _ hother | handOver _ hother | use hother
  | finish hother | dropGuard hother | giveBack hother =>
    rw [hstage] at hother
    cases hother
  | refuse => rfl

/-- Among the events of a run those of a client make a run that mirrors it. -/
structure Mirrored (headerTimeout : Nat) (bindings : List Config.Binding)
    (binding : Config.Binding) (client : Nat) (events : List Event) (server : Server) : Prop where
  absent : server.visits[client]? = none →
    collect (Event.alone client) (ofBindings headerTimeout bindings) events = []
  mirrors : ∀ visit, server.visits[client]? = some visit →
    bindings[visit.listener]? = some binding → visit.stage ≠ .refused →
    ∃ alone, (ofBindings headerTimeout [binding]).run?
        (collect (Event.alone client) (ofBindings headerTimeout bindings) events) = some alone ∧
      Mirrors binding visit (server.handedOver client) alone

/-- The event by which a client comes is mirrored by its coming alone. -/
theorem Mirrored.of_new (h : Mirrored headerTimeout bindings binding client events server)
    (hrun : (ofBindings headerTimeout bindings).run? events = some server)
    (heffect : Effect server event next) (hnone : server.visits[client]? = none) :
    Mirrored headerTimeout bindings binding client (events ++ [event]) next := by
  have hcollect := collect_append (Event.alone client) hrun heffect
  rw [h.absent hnone, List.nil_append] at hcollect
  refine ⟨fun hlater => hcollect.trans (alone_of_absent heffect hlater),
    fun visit hvisit _ _ => ?_⟩
  obtain ⟨listener, peer, rfl, _, rfl⟩ := new_of_effect heffect hnone hvisit
  have hclient : server.visits.length = client := by
    cases heffect with
    | connect =>
      have hge := List.getElem?_eq_none_iff.mp hnone
      have hlt := (List.getElem?_eq_some_iff.mp hvisit).1
      rw [List.length_append, List.length_singleton] at hlt
      omega
  have halone : Event.alone client server (.connect listener peer) next = [.connect 0 peer] :=
    if_pos hclient
  rw [hcollect, halone, (absent_of_effect heffect hnone).2, (absent_of_run rfl hrun hnone).2]
  exact mirrors_connect headerTimeout binding listener peer

/-- Every later event is mirrored by what is left of it. -/
theorem Mirrored.of_turn (h : Mirrored headerTimeout bindings binding client events server)
    (hrun : (ofBindings headerTimeout bindings).run? events = some server)
    (heffect : Effect server event next) (hvisit : server.visits[client]? = some visit) :
    Mirrored headerTimeout bindings binding client (events ++ [event]) next := by
  obtain ⟨later, new, hturn, hlater, hhandedOver⟩ := turns_of_effect heffect hvisit
  refine ⟨fun hnone => ?_, fun last hlast hbinding hstage => ?_⟩
  · rw [hlater] at hnone
    cases hnone
  cases hlater.symm.trans hlast
  rw [hturn.same.1] at hbinding
  obtain ⟨alone, halone, hmirrors⟩ := h.mirrors visit hvisit hbinding fun hrefused =>
    hstage (refused_of_turn hturn hrefused)
  have htimeout : alone.headerTimeout = server.headerTimeout := by
    rw [(settings_of_run_ofBindings halone).1, (settings_of_run_ofBindings hrun).1]
  rw [collect_append _ hrun heffect, run?_append halone, hhandedOver]
  exact mirrors_of_turn htimeout (balanced_of_run hrun) heffect
    (fun _ => binding_of_run hrun hbinding) hmirrors hturn hvisit hlater hstage

/-- Every client is mirrored by itself alone, in every run. -/
theorem mirrored_of_run (h : (ofBindings headerTimeout bindings).run? events = some server) :
    Mirrored headerTimeout bindings binding client events server := by
  refine run_induction (p := Mirrored headerTimeout bindings binding client) ?_ ?_ h
  · refine ⟨fun _ => rfl, fun visit hvisit => ?_⟩
    cases hvisit
  · intro events event server next hrun ih heffect
    cases hvisit : server.visits[client]? with
    | none => exact ih.of_new hrun heffect hvisit
    | some visit => exact ih.of_turn hrun heffect hvisit

/-! ## Independence -/

/-- **Clients are judged independently.**  After every run of a server, for every client:

* When it has been judged, it has come to what a search comes to that has only what the client has
  sent and may send later, and the policy of its own listener: it is rejected with the failure of
  that search, or it is handed over with the header and gets what the stream of that search gives.
* When it has not been judged, nothing was handed over of it.
* Once it has been accepted, its end is known or no header is demanded of it, it can be judged at
  once, by looks at it alone.
* When it has not been turned away, a server with its listener alone has a run of what is left of
  the events for it, and there the client, and what was handed over, is the same up to its
  number. -/
theorem clients_independent (h : (ofBindings headerTimeout bindings).run? events = some server)
    (hvisit : server.visits[client]? = some visit) :
    ∃ binding, bindings[visit.listener]? = some binding ∧
      let script := arrivals client events
      (visit.stage.isJudged = true → ∀ later,
        Settled client binding (uses client events) visit (server.handedOver client)
          (Sniff.sniff Duplex.read headerTimeout (.ofScript (script ++ later))
            binding.policy).result) ∧
      (visit.stage.isJudged = false → server.handedOver client = [] ∧ visit.answers = []) ∧
      (visit.stage.guard? ≠ none → binding.policy = .disabled ∨ script.isComplete = true →
        ∃ looks last later, server.run? (List.replicate looks (.look client)) = some last ∧
          last.visits[client]? = some later ∧ later.stage.isJudged = true) ∧
      (visit.stage ≠ .refused →
        ∃ alone, (ofBindings headerTimeout [binding]).run?
            (collect (Event.alone client) (ofBindings headerTimeout bindings) events) =
              some alone ∧
          alone.visits = [visit.alone] ∧
          alone.handovers = (server.handedOver client).map Handover.alone) := by
  obtain ⟨binding, hbinding, hpast⟩ := past_of_run h hvisit
  have hheard := heard_of_run h hvisit hbinding
  refine ⟨binding, hbinding, settled_of_past rfl hpast hheard, hpast.unjudged,
    exists_looks_of_run h hvisit hbinding, fun hstage => ?_⟩
  · obtain ⟨alone, halone, hmirrors⟩ := (mirrored_of_run h).mirrors visit hvisit hbinding hstage
    exact ⟨alone, halone, hmirrors.visits, hmirrors.handovers⟩

/-- A run in which the bytes of three clients come mingled: a header in two pieces, a request
without one, and the beginning of one where none is demanded. -/
def mingled : List Event :=
  [.connect 1 (.v4 .unspecified 1), .connect 1 (.v4 .unspecified 2),
    .connect 0 (.v4 .unspecified 3), .claim 1, .accept 1, .claim 1, .accept 1, .claim 0, .accept 0,
    .arrive 0 (.data (Bytes.ofText "PROXY UNK")), .arrive 1 (.data (Bytes.ofText "GET")), .look 0,
    .arrive 2 (.data (Bytes.ofText "PROXY ")), .look 1,
    .arrive 0 (.data (Bytes.ofText "NOWN a b 1 2\r\nhello")), .look 0, .use 0 (.read 3)]

/-- The first client comes to what it comes to alone, and the third can still be judged. -/
theorem clients_independent_mingled :
    ∃ server, (ofBindings 5000 twoListeners).run? mingled = some server ∧
      (∃ visit binding, server.visits[0]? = some visit ∧ twoListeners[1]? = some binding ∧
        Settled 0 binding (uses 0 mingled) visit (server.handedOver 0)
          (Sniff.sniff Duplex.read 5000 (.ofScript (arrivals 0 mingled ++ [.finish]))
            .required).result ∧
        ∃ alone, (ofBindings 5000 [binding]).run?
            (collect (Event.alone 0) (ofBindings 5000 twoListeners) mingled) = some alone ∧
          alone.visits = [visit.alone]) ∧
      ∃ looks last later, server.run? (List.replicate looks (.look 2)) = some last ∧
        last.visits[2]? = some later ∧ later.stage.isJudged = true := by
  obtain ⟨server, hrun⟩ : ∃ server, (ofBindings 5000 twoListeners).run? mingled = some server :=
    ⟨_, rfl⟩
  have hclients : ((ofBindings 5000 twoListeners).run? mingled).map (fun server =>
      server.visits.map fun visit => (visit.listener, visit.stage.isJudged,
        visit.stage.guard?.isSome)) =
      some [(1, true, true), (1, true, true), (0, false, true)] := by
    decide +kernel
  rw [hrun, Option.map_some, Option.some.injEq] at hclients
  have hclient (client listener : Nat) (judged guarded : Bool)
      (hthere : [(1, true, true), (1, true, true), (0, false, true)][client]? =
        some (listener, judged, guarded)) :
      ∃ visit, server.visits[client]? = some visit ∧ visit.listener = listener ∧
        visit.stage.isJudged = judged ∧ visit.stage.guard?.isSome = guarded := by
    rw [← hclients, List.getElem?_map] at hthere
    obtain ⟨visit, hvisit, hsame⟩ := Option.map_eq_some_iff.mp hthere
    simp only [Prod.mk.injEq] at hsame
    exact ⟨visit, hvisit, hsame⟩
  refine ⟨server, hrun, ?_, ?_⟩
  · obtain ⟨visit, hvisit, hlistener, hjudged, _⟩ := hclient 0 1 true true rfl
    obtain ⟨binding, hbinding, hsettled, _, _, halone⟩ := clients_independent hrun hvisit
    rw [hlistener] at hbinding
    have hstage : visit.stage ≠ .refused := by
      intro hrefused
      rw [hrefused] at hjudged
      cases hjudged
    obtain ⟨alone, hrunAlone, hvisits, _⟩ := halone hstage
    have hresult := hsettled hjudged [.finish]
    cases hbinding
    exact ⟨visit, _, hvisit, rfl, hresult, alone, hrunAlone, hvisits⟩
  · obtain ⟨visit, hvisit, hlistener, _, hguarded⟩ := hclient 2 0 false true rfl
    obtain ⟨binding, hbinding, _, _, hlooks, _⟩ := clients_independent hrun hvisit
    rw [hlistener] at hbinding
    cases hbinding
    exact hlooks (Option.isSome_iff_ne_none.mp hguarded) (.inl rfl)

end ProxyGate.Server
