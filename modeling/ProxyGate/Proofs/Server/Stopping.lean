import ProxyGate.Proofs.Server.Slots
import ProxyGate.Proofs.Server.Undisturbed

/-!
# Stopping

What a shutdown does to a server, and what it leaves alone.  `Alike` says that an accepted client is
the same in two servers, and `alike_of_run` that it can then go on in one of them as in the other:
whatever else happens in the first, and also when all loops of the second have stopped.
`closed_of_run` says what a listener does once its loop has stopped, which is nothing, and
`closed_of_returned` that a server comes to its end only when all of them have.

`accepted_outlive_shutdown` puts these together with the run without the shutdown.
-/

namespace ProxyGate.Server

variable {server next other last : Server} {event : Event} {events : List Event}
  {client listener : Nat} {visit later : Visit} {listening : Listening} {new : List Handover}

/-! ## An accepted client in two servers -/

/-- The events that name a client. -/
def about (client : Nat) (events : List Event) : List Event :=
  events.filter fun event => event.client? = some client

/-- A client, and what was handed over of it, are the same in two servers. -/
def Agree (client : Nat) (server other : Server) : Prop :=
  other.visits[client]? = server.visits[client]? ∧ other.handedOver client = server.handedOver client

/-- Two servers that an accepted client cannot tell apart. -/
structure Alike (client : Nat) (visit : Visit) (server other : Server) : Prop where
  here : server.visits[client]? = some visit
  accepted : visit.stage.guard? ≠ none
  agree : Agree client server other
  headerTimeout : other.headerTimeout = server.headerTimeout
  bindings : other.listeners.map (·.binding) = server.listeners.map (·.binding)

theorem Alike.getElem?_visits (h : Alike client visit server other) :
    other.visits[client]? = some visit :=
  h.agree.1.trans h.here

theorem Alike.getElem?_listeners (h : Alike client visit server other)
    (hlistening : server.listeners[listener]? = some listening) :
    ∃ same, other.listeners[listener]? = some same ∧ same.binding = listening.binding := by
  have hbinding : (other.listeners[listener]?).map (·.binding) = some listening.binding := by
    rw [← List.getElem?_map, h.bindings, List.getElem?_map, hlistening, Option.map_some]
  exact Option.map_eq_some_iff.mp hbinding

/-- An event that does not name an accepted client leaves it alone. -/
theorem Turn.of_rest (h : Turn server client visit event later new)
    (haccepted : visit.stage.guard? ≠ none) (hevent : event.client? ≠ some client) :
    later = visit ∧ new = [] := by
  cases h with
  | rest => exact ⟨rfl, rfl⟩
  | accept _ _ hstage | refuse hstage => exact absurd (by rw [hstage]; rfl) haccepted
  | arrive | more | reject | handOver | use | finish | dropGuard | giveBack =>
    exact absurd rfl hevent

/-- An accepted client stays accepted. -/
theorem Turn.accepted (h : Turn server client visit event later new)
    (haccepted : visit.stage.guard? ≠ none) : later.stage.guard? ≠ none := by
  intro hnone
  rcases id_of_turn h with hsame | ⟨_, _, _, hnew⟩
  · rw [hnone, Option.map_none, eq_comm, Option.map_eq_none_iff] at hsame
    exact haccepted hsame
  · rw [hnone] at hnew
    cases hnew

/-- A change of one client is seen at its place. -/
theorem getElem?_of_modify {change : Visit → Visit} (hvisit : server.visits[client]? = some visit)
    (hvisits : next.visits = server.visits.modify client change) (hchange : change visit = later) :
    next.visits[client]? = some later := by
  rw [hvisits, List.getElem?_modify_eq, hvisit, ← hchange]
  rfl

/-- What an accepted client does in one server it can do in the other. -/
theorem Alike.named (h : Alike client visit server other)
    (hturn : Turn server client visit event later new) (hevent : event.client? = some client) :
    ∃ last, Effect other event last ∧ last.visits[client]? = some later ∧
      last.handedOver client = other.handedOver client ++ new := by
  have hvisit := h.getElem?_visits
  cases hturn with
  | rest hother => exact absurd hevent hother
  | accept | refuse => cases hevent
  | arrive step =>
    exact ⟨_, .arrive hvisit, getElem?_of_modify hvisit rfl rfl, (List.append_nil _).symm⟩
  | more hlistening hstage hready hlook =>
    obtain ⟨same, hsame, hbinding⟩ := h.getElem?_listeners hlistening
    rw [← hbinding] at hready hlook
    rw [← h.headerTimeout] at hlook
    exact ⟨_, .more hvisit hsame hstage hready hlook, getElem?_of_modify hvisit rfl rfl,
      (List.append_nil _).symm⟩
  | reject hlistening hstage hready hlook =>
    obtain ⟨same, hsame, hbinding⟩ := h.getElem?_listeners hlistening
    rw [← hbinding] at hready hlook
    rw [← h.headerTimeout] at hlook
    exact ⟨_, .reject hvisit hsame hstage hready hlook, getElem?_of_modify hvisit rfl rfl,
      (List.append_nil _).symm⟩
  | @handOver listening guard progress header stream origin hlistening hstage hready hlook
      horigin =>
    obtain ⟨same, hsame, hbinding⟩ := h.getElem?_listeners hlistening
    rw [← hbinding] at hready hlook horigin ⊢
    rw [← h.headerTimeout] at hlook
    subst horigin
    refine ⟨_, .handOver hvisit hsame hstage hready hlook, getElem?_of_modify hvisit rfl rfl, ?_⟩
    simp only [handedOver, Server.handOver, List.filter_append]
    simp
  | use hstage hready =>
    exact ⟨_, .use hvisit hstage hready, getElem?_of_modify hvisit rfl rfl, (List.append_nil _).symm⟩
  | finish hstage =>
    refine ⟨_, .finish hvisit hstage, ?_⟩
    exact ⟨getElem?_of_modify hvisit rfl rfl, (List.append_nil _).symm⟩
  | dropGuard hstage =>
    exact ⟨_, .dropGuard hvisit hstage, getElem?_of_modify hvisit rfl rfl, (List.append_nil _).symm⟩
  | giveBack hstage =>
    exact ⟨_, .giveBack hvisit hstage, getElem?_of_modify hvisit rfl rfl, (List.append_nil _).symm⟩

/-- Whatever happens in a run that goes on, an accepted client can go on like this in every server
that it cannot tell from the one of the run. -/
theorem alike_of_run (h : Alike client visit server other) (hrun : server.run? events = some last) :
    ∃ later rest, other.run? (about client events) = some rest ∧ Alike client later last rest := by
  refine run_induction (p := fun events last => ∃ later rest,
    other.run? (about client events) = some rest ∧ Alike client later last rest)
    ⟨visit, other, rfl, h⟩ ?_ hrun
  rintro events event before next _ ⟨visit, rest, hrest, halike⟩ heffect
  obtain ⟨later, new, hturn, hlater, hhandedOver⟩ := turns_of_effect heffect halike.here
  rw [about, List.filter_append, ← about, run?_append hrest]
  by_cases hevent : event.client? = some client
  · obtain ⟨last, hlast, hsame, hnew⟩ := halike.named hturn hevent
    refine ⟨later, last, ?_, hlater, hturn.accepted halike.accepted, ⟨?_, ?_⟩, ?_, ?_⟩
    · rw [List.filter_cons_of_pos (by simpa using hevent)]
      exact run?_cons hlast []
    · rw [hsame, hlater]
    · rw [hnew, hhandedOver, halike.agree.2]
    · rw [hlast.settings.1, heffect.settings.1, halike.headerTimeout]
    · rw [hlast.settings.2, heffect.settings.2, halike.bindings]
  · obtain ⟨rfl, rfl⟩ := hturn.of_rest halike.accepted hevent
    refine ⟨later, rest, ?_, hlater, halike.accepted, ⟨?_, ?_⟩, ?_, ?_⟩
    · rw [List.filter_cons_of_neg (by simpa using hevent)]
      rfl
    · rw [halike.getElem?_visits, hlater]
    · rw [hhandedOver, List.append_nil, halike.agree.2]
    · rw [heffect.settings.1, halike.headerTimeout]
    · rw [heffect.settings.2, halike.bindings]

/-- An accepted client cannot tell a server from that of the run without the shutdown. -/
theorem Beside.alike {calm : Server} (h : Beside server calm)
    (hbindings : calm.listeners.map (·.binding) = server.listeners.map (·.binding))
    (hvisit : server.visits[client]? = some visit) (haccepted : visit.stage.guard? ≠ none) :
    Alike client visit calm server := by
  have hcalm : calm.visits[client]? = some visit := by
    refine h.getElem?_visits hvisit ?_
    intro hrefused
    rw [hrefused] at haccepted
    exact haccepted rfl
  refine ⟨hcalm, haccepted, ⟨hvisit.trans hcalm.symm, ?_⟩, h.headerTimeout.symm, hbindings.symm⟩
  rw [handedOver, handedOver, h.handovers]

/-! ## Shutdown -/

theorem guardId?_eq_some {id : Nat} (hid : server.guardId? client = some id) :
    ∃ visit, server.visits[client]? = some visit ∧ visit.stage.guard? ≠ none := by
  rw [guardId?] at hid
  obtain ⟨guard, hguard, _⟩ := Option.map_eq_some_iff.mp hid
  obtain ⟨visit, hvisit, hsome⟩ := Option.bind_eq_some_iff.mp hguard
  refine ⟨visit, hvisit, ?_⟩
  rw [hsome]
  exact Option.some_ne_none guard

variable {headerTimeout : Nat} {bindings : List Config.Binding}

/-- **A shutdown stops accepting, and leaves alone what was accepted.**  After every run of a server,
wherever in it the shutdown was triggered or its coordinator went away:

* The events without those of the shutdown make a run, with the same counts and the same clients
  that have been accepted: what they were judged to be, what was handed over, what their handlers
  got, and what they have given back.  However that run goes on, an accepted client can go on in the
  same way by itself after the shutdown.
* A loop can stop exactly if it runs and the shutdown was triggered or the coordinator is gone.
* A loop that has stopped holds no slot.  Nothing happens at its listener any more, and no client
  of it is accepted, whatever else happens.
* A server that has come to its end has no loop that runs.
* It comes to its end when all loops have stopped; this leaves the clients alone, and the live count,
  which is logged, is the number of connections that are still there. -/
theorem accepted_outlive_shutdown
    (h : (ofBindings headerTimeout bindings).run? events = some server) :
    (∃ calm, (ofBindings headerTimeout bindings).run? (undisturbed events) = some calm ∧
      calm.active = server.active ∧ calm.metrics = server.metrics ∧
      ∀ client id, server.guardId? client = some id →
        Agree client server calm ∧
        ∀ later last, calm.run? later = some last →
          ∃ rest, server.run? (about client later) = some rest ∧ Agree client last rest) ∧
    (∀ listener, (∃ next, server.step? (.stop listener) = some next) ↔
      server.isOpen listener = true ∧ (.trigger ∈ events ∨ .dropCoordinator ∈ events)) ∧
    (∀ listener listening, server.listeners[listener]? = some listening →
      listening.loop = .stopped →
        listening.free + server.held listener = listening.binding.maxConnections ∧
        ∀ later last, server.run? later = some last →
          (∀ event ∈ later, event.listener? ≠ some listener) ∧
          ∀ client visit, last.visits[client]? = some visit → visit.listener = listener →
            last.guardId? client = server.guardId? client) ∧
    (server.returned = true → ∀ listening ∈ server.listeners, listening.loop = .stopped) ∧
    (∀ next, server.step? .leave = some next →
      (∀ listening ∈ server.listeners, listening.loop = .stopped) ∧
      next.visits = server.visits ∧ next.active = next.guarded ∧
      next.log = server.log ++ [⟨.info, "All listeners stopped",
        [("active_connections", String.ofList (Text.decimal next.guarded))]⟩]) := by
  have hbalanced := balanced_of_run h
  refine ⟨?_, fun listener => ?_, fun listener listening hlistening hstopped => ⟨?_, ?_⟩,
    closed_of_returned rfl h, fun next hnext => ?_⟩
  · obtain ⟨calm, hcalm, hbeside⟩ := beside_of_run h
    refine ⟨calm, hcalm, hbeside.active, hbeside.metrics, fun client id hid => ?_⟩
    have hbindings : calm.listeners.map (·.binding) = server.listeners.map (·.binding) := by
      rw [(settings_of_run_ofBindings hcalm).2, (settings_of_run_ofBindings h).2]
    obtain ⟨visit, hvisit, haccepted⟩ := guardId?_eq_some hid
    have halike := hbeside.alike hbindings hvisit haccepted
    refine ⟨⟨halike.agree.1.symm, halike.agree.2.symm⟩, fun later last hlast => ?_⟩
    obtain ⟨_, rest, hrest, hsame⟩ := alike_of_run halike hlast
    exact ⟨rest, hrest, hsame.agree⟩
  · rw [exists_stop_iff, isOver_iff_of_run rfl h]
  · have hslots := hbalanced.slots listener listening hlistening
    rw [hstopped] at hslots
    exact hslots
  · intro later last hlast
    exact (closed_of_run (closed_of_stopped hlistening hstopped) hlast).2
  · cases effect_of_step? hnext with
    | leave _ hstopped =>
      refine ⟨hstopped, rfl, hbalanced.active, ?_⟩
      rw [leaveEntry, hbalanced.active]
      rfl

/-- A run in which one client is served, one is still looked at, and one waits, when the shutdown is
triggered. -/
def halted : List Event :=
  [.connect 0 (.v4 .unspecified 1), .connect 1 (.v4 .unspecified 2),
    .connect 1 (.v4 .unspecified 3), .claim 0, .accept 0, .claim 1, .accept 1,
    .arrive 1 (.data (Bytes.ofText "PROXY UNK")), .look 1, .claim 1, .trigger, .stop 1, .look 0,
    .stop 0, .leave]

/-- After that run the client that is looked at can go on as in the run without the shutdown, and its
listener accepts nobody. -/
theorem accepted_outlive_shutdown_halted :
    ∃ server, (ofBindings 5000 twoListeners).run? halted = some server ∧
      (∃ calm, (ofBindings 5000 twoListeners).run? (undisturbed halted) = some calm ∧
        Agree 1 server calm ∧
        ∃ rest, server.run? [.arrive 1 (.data (Bytes.ofText "NOWN\r\nhello")), .look 1] =
          some rest) ∧
      (∀ later last, server.run? later = some last → .accept 1 ∉ later) ∧
      ∀ listening ∈ server.listeners, listening.loop = .stopped := by
  obtain ⟨server, hrun⟩ : ∃ server, (ofBindings 5000 twoListeners).run? halted = some server :=
    ⟨_, rfl⟩
  have hid : ((ofBindings 5000 twoListeners).run? halted).bind (·.guardId? 1) = some 2 := by
    decide +kernel
  have hstopped : ((ofBindings 5000 twoListeners).run? halted).map (fun server =>
      (server.returned, server.listeners.map (·.loop))) = some (true, [.stopped, .stopped]) := by
    decide +kernel
  rw [hrun] at hid hstopped
  simp only [Option.map_some, Option.some.injEq, Prod.mk.injEq] at hstopped
  obtain ⟨⟨calm, hcalm, _, _, hclients⟩, _, hclosed, hreturned, _⟩ := accepted_outlive_shutdown hrun
  obtain ⟨hagree, hgoes⟩ := hclients 1 2 hid
  refine ⟨server, hrun, ⟨calm, hcalm, hagree, ?_⟩, fun later last hlast hmem => ?_,
    hreturned hstopped.1⟩
  · have hlater : ∃ last, calm.run?
        [.arrive 1 (.data (Bytes.ofText "NOWN\r\nhello")), .look 1] = some last := by
      rw [← run?_append hcalm]
      exact Option.isSome_iff_exists.mp (by decide +kernel)
    obtain ⟨last, hlast⟩ := hlater
    obtain ⟨rest, hrest, _⟩ := hgoes _ last hlast
    exact ⟨rest, hrest⟩
  · have hloop : (server.listeners.map (·.loop))[1]? = some .stopped := by
      rw [hstopped.2]
      rfl
    rw [List.getElem?_map] at hloop
    obtain ⟨listening, hlistening, hloop⟩ := Option.map_eq_some_iff.mp hloop
    exact ((hclosed 1 listening hlistening hloop).2 later last hlast).1 _ hmem rfl

end ProxyGate.Server
