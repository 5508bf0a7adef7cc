import ProxyGate.Proofs.Server.Past
import ProxyGate.Proofs.Server.Startup
import ProxyGate.Proofs.SideBySide

/-!
# The policy of a listener cannot be bypassed

Where a listener demands a header, its handler is only given connections that open with one, and
their streams go on behind it.  Elsewhere it is given every connection, and all of its bytes.

`Past.own`, `Past.silent` and `Past.continues` are what the past of one client says about what was
handed over of it; `policy_not_bypassed` puts them together for the listeners of a configuration.
-/

namespace ProxyGate

namespace Server

open Connection (Guard Origin)
open ProxyGate.Stream (Duplex Replay Script Answer)
open Sniff (TakesOff)

/-- The transport of a client. -/
def Stage.transport? : Stage → Option Duplex
  | .waiting transport | .over _ _ transport _ => some transport
  | .sniffing _ progress => some progress.source
  | .serving _ _ stream => some stream.inner
  | .refused => none

/-- Whether a client is with its handler. -/
def Stage.isServing : Stage → Bool
  | .serving _ _ _ => true
  | .waiting _ | .refused | .sniffing _ _ | .over _ _ _ _ => false

/-- The stream of a handler goes on behind the first bytes of a client. -/
structure Continues (front : Bytes) (script : Script) (visit : Visit) (handover : Handover) :
    Prop where
  /-- At first it has all other bytes that have come. -/
  handed : ∃ before, before <+: script ∧ front ++ handover.stream.bytes = Script.bytes before
  /-- The handler gets its bytes from the front. -/
  delivered : front ++ visit.answers.flatMap Answer.bytes <+: script.bytes
  /-- While it is served, the stream has all bytes that the handler has not got. -/
  left : ∀ guard origin stream, visit.stage = .serving guard origin stream →
    origin = handover.origin ∧
      front ++ visit.answers.flatMap Answer.bytes ++ stream.bytes = script.bytes

variable {limit : Nat} {place : Place} {script : Script} {answers : List Answer} {stage : Stage}
  {handed : List Handover}

theorem Past.length_le (h : Past limit place script answers stage handed) : handed.length ≤ 1 := by
  cases h <;> simp

/-- What was handed over of a client is what its handler has, or has had. -/
theorem Past.exists_served (h : Past limit place script answers stage handed) {handover : Handover}
    (hmem : handover ∈ handed) :
    ∃ id stream, Served limit place script answers id handover.origin stream handover ∧
      stage.guard?.map Guard.id = some id ∧
      ∀ guard origin rest, stage = .serving guard origin rest →
        origin = handover.origin ∧ rest = stream := by
  cases h with
  | waiting | refused | sniffing | rejected => exact absurd hmem List.not_mem_nil
  | @serving _ origin _ given h =>
    have horigin : given.origin = origin := congrArg Handover.origin h.recorded
    rw [List.mem_singleton.mp hmem, horigin]
    refine ⟨_, _, h, rfl, fun guard origin rest hserving => ?_⟩
    cases hserving
    exact ⟨rfl, rfl⟩
  | @served _ origin _ _ _ _ given h =>
    have horigin : given.origin = origin := congrArg Handover.origin h.recorded
    rw [List.mem_singleton.mp hmem, horigin]
    refine ⟨_, _, h, rfl, fun guard origin rest hserving => ?_⟩
    cases hserving

theorem Past.own (h : Past limit place script answers stage handed) {handover : Handover}
    (hmem : handover ∈ handed) :
    handover.origin.peer = place.peer ∧ handover.origin.here = place.binding.address ∧
      stage.guard?.map Guard.id = some handover.origin.id := by
  obtain ⟨id, stream, hserved, hguard, _⟩ := h.exists_served hmem
  rw [hguard, hserved.own]
  exact ⟨rfl, rfl, rfl⟩

/-- A client that was not handed over is served by nobody, and has been sent nothing. -/
theorem Past.silent (h : Past limit place script answers stage []) :
    stage.isServing = false ∧ answers = [] ∧
      ∀ transport, stage.transport? = some transport → transport.outlet.calls = [] := by
  cases h with
  | waiting hunused =>
    refine ⟨rfl, hunused, ?_⟩
    rintro _ ⟨⟩
    rfl
  | refused hunused =>
    refine ⟨rfl, hunused, ?_⟩
    rintro _ ⟨⟩
  | sniffing hunused hsearch hsilent =>
    refine ⟨rfl, hunused, ?_⟩
    rintro _ ⟨⟩
    rw [hsilent]
  | rejected hunused hresult hsilent =>
    refine ⟨rfl, hunused, ?_⟩
    rintro _ ⟨⟩
    rw [hsilent]

/-- What was handed over of a client goes on behind what its policy takes off. -/
theorem Served.continues {id : Nat} {origin : Origin} {stream : Replay Duplex} {handover : Handover}
    (h : Served limit place script answers id origin stream handover) :
    ∃ front, TakesOff limit script place.binding.policy front origin.header ∧
      (∃ before, before <+: script ∧ front ++ handover.stream.bytes = Script.bytes before) ∧
      front ++ answers.flatMap Answer.bytes ++ stream.bytes = script.bytes := by
  obtain ⟨before, since, rfl, hresult, hbytes⟩ := h.behind
  obtain ⟨front, htakes, hfront⟩ := Sniff.behind_of_accepted hresult.now
  have hprefix : before <+: before ++ since := List.prefix_append before since
  refine ⟨front, htakes.append since, ⟨before, hprefix, hfront⟩, ?_⟩
  rw [Script.bytes_append, ← hfront, List.append_assoc, hbytes, List.append_assoc]

theorem Past.continues {visit : Visit}
    (h : Past limit place script visit.answers visit.stage handed) {handover : Handover}
    (hmem : handover ∈ handed) :
    ∃ front, TakesOff limit script place.binding.policy front handover.origin.header ∧
      Continues front script visit handover := by
  obtain ⟨id, stream, hserved, _, hstage⟩ := h.exists_served hmem
  obtain ⟨front, htakes, hhanded, hbytes⟩ := hserved.continues
  refine ⟨front, htakes, hhanded, ⟨_, hbytes⟩, fun guard origin rest hserving => ?_⟩
  obtain ⟨horigin, rfl⟩ := hstage guard origin rest hserving
  exact ⟨horigin, hbytes⟩

/-- Where no header is demanded, an accepted client that was not handed over yet can be. -/
theorem Past.handOver {server : Server} {visit : Visit} {listening : Listening}
    (h : Past limit place script visit.answers visit.stage [])
    (hpolicy : place.binding.policy = .disabled)
    (hvisit : server.visits[place.client]? = some visit)
    (hlistening : server.listeners[visit.listener]? = some listening)
    (hbinding : listening.binding = place.binding) (haccepted : visit.stage.guard? ≠ none) :
    ∃ guard, visit.stage.guard? = some guard ∧
      server.step? (.look place.client) = some (server.handOver place.client guard .disabled
        ⟨guard.id, visit.peer, place.binding.address, none⟩ (.direct (.ofScript script))) := by
  generalize hstage : visit.stage = stage at h haccepted ⊢
  -- Of the stages in which nothing was handed over, only the search is left here: a client that
  -- waits has no guard, and where no header is demanded nothing is rejected.
  cases h with
  | waiting => exact absurd rfl haccepted
  | refused => exact absurd rfl haccepted
  | rejected _ hresult =>
    rw [hpolicy] at hresult
    cases hresult.now
  | @sniffing guard progress _ hsearch =>
    rw [hpolicy] at hsearch
    cases hsearch with
    | disabled hstart =>
      refine ⟨guard, rfl, ?_⟩
      have hready : canLook progress listening.binding.policy = true := by
        rw [hbinding, hpolicy]
        rfl
      have hlook : server.look place.client visit listening.binding guard progress =
          server.handOver place.client guard .disabled
            ⟨guard.id, visit.peer, place.binding.address, none⟩ (.direct (.ofScript script)) := by
        rw [look, hbinding, hpolicy, hstart]
        rfl
      rw [← hlook]
      simp [step?, hvisit, hlistening, hstage, hready]

theorem policy_of_houses {listener : Config.Listener} {there : Config.Binding}
    (h : Houses listener there) :
    (listener.Demands → there.policy = .required) ∧
      (¬listener.Demands → there.policy = .disabled) := by
  obtain ⟨binding, address, ⟨hresolve, _⟩, rfl⟩ := h
  have hpolicy := Config.Listener.policy_of_resolve hresolve
  exact hpolicy

/-- **The policy of a listener cannot be bypassed.**  After every run of a server that was started,
for every client, whatever it has sent and however it was cut up:

* It is at the listener that it came to, and was handed over at most once, with its own peer, the
  address of its listener, and an id that no other client has.
* While it was not handed over, no handler serves it, and nothing has been sent to it.
* Where its listener demands a header, it was only handed over behind a line that its bytes open
  with, that came in time, and that is a header; that header is given to the handler.
* Elsewhere it is handed over without a header and with all of its bytes from the first on, and once
  it was accepted, nothing keeps it from being handed over. -/
theorem policy_not_bypassed {σ : Type}
    {place : Address.Socket → StateM σ (Except String Address.Socket)} {host : σ} {config : Config}
    {start server : Server} {events : List Event}
    (hstart : ((startOn place config).run host).1 = .ok start)
    (hrun : start.run? events = some server) {client : Nat} {visit : Visit}
    (hvisit : server.visits[client]? = some visit) :
    (connects events)[client]? = some (visit.listener, visit.peer) ∧
    ∃ listener listening, config.listeners[visit.listener]? = some listener ∧
      server.listeners[visit.listener]? = some listening ∧
      let script := arrivals client events
      let handed := server.handedOver client
      handed.length ≤ 1 ∧
      (∀ handover ∈ handed, handover.origin.peer = visit.peer ∧
        handover.origin.here = listening.binding.address ∧
        ∀ other, server.guardId? other = some handover.origin.id ↔ other = client) ∧
      (handed = [] → visit.stage.isServing = false ∧ visit.answers = [] ∧
        ∀ transport, visit.stage.transport? = some transport → transport.outlet.calls = []) ∧
      (listener.Demands → ∀ handover ∈ handed, ∃ line header,
        line <+: script.contentBy config.headerTimeout ∧ Header.parse line = .ok header ∧
        handover.origin.header = some header ∧ Continues line script visit handover) ∧
      (¬listener.Demands →
        (∀ handover ∈ handed,
          handover.origin.header = none ∧ Continues [] script visit handover) ∧
        (visit.stage.guard? ≠ none → handed = [] → ∃ next handover,
          server.step? (.look client) = some next ∧ next.handedOver client = [handover] ∧
          handover.origin.header = none ∧ handover.stream.bytes = script.bytes)) := by
  have hstarted := startedOn_startOn place host config
  rw [hstart] at hstarted
  obtain ⟨placed, hhouses, rfl⟩ := hstarted.houses
  obtain ⟨binding, hbinding, hpast⟩ := past_of_run hrun hvisit
  obtain ⟨listener, hlistener, hhouse⟩ := forall₂_getElem? hhouses.flip hbinding
  obtain ⟨hrequired, hdisabled⟩ := policy_of_houses hhouse
  have hnumbered := numbered_of_run rfl hrun
  have hconnects : (connects events)[client]? = some (visit.listener, visit.peer) := by
    rw [← visitors_of_run rfl hrun, List.getElem?_map, hvisit]
    rfl
  obtain ⟨listening, hlistening, hsame⟩ :
      ∃ listening, server.listeners[visit.listener]? = some listening ∧
        listening.binding = binding := by
    rw [← (settings_of_run_ofBindings hrun).2, List.getElem?_map] at hbinding
    exact Option.map_eq_some_iff.mp hbinding
  refine ⟨hconnects, listener, listening, hlistener, hlistening, hpast.length_le,
    fun handover hmem => ?_, fun hnone => ?_, fun hdemands handover hmem => ?_,
    fun hplain => ⟨fun handover hmem => ?_, fun haccepted hnone => ?_⟩⟩
  · obtain ⟨hpeer, hhere, hid⟩ := hpast.own hmem
    have hclient : server.guardId? client = some handover.origin.id := by
      rw [guardId?, hvisit]
      exact hid
    refine ⟨hpeer, by rw [hhere, hsame], fun other => ⟨fun hother => ?_, fun hother => ?_⟩⟩
    · exact hnumbered.own other client _ hother hclient
    · rwa [hother]
  · rw [hnone] at hpast
    exact hpast.silent
  · obtain ⟨front, htakes, hcontinues⟩ := hpast.continues hmem
    rw [hrequired hdemands] at htakes
    obtain ⟨header, hheader, hopens, hparsed⟩ := htakes.of_required
    exact ⟨front, header, hopens, hparsed, hheader, hcontinues⟩
  · obtain ⟨front, htakes, hcontinues⟩ := hpast.continues hmem
    rw [hdisabled hplain] at htakes
    obtain ⟨rfl, hheader⟩ := htakes.of_disabled
    exact ⟨hheader, hcontinues⟩
  · rw [hnone] at hpast
    obtain ⟨guard, _, hstep⟩ := hpast.handOver (hdisabled hplain) hvisit hlistening hsame haccepted
    refine ⟨_, ⟨client, ⟨guard.id, visit.peer, binding.address, none⟩,
      .direct (.ofScript (arrivals client events))⟩, hstep, ?_, rfl, rfl⟩
    rw [handedOver] at hnone
    rw [handedOver, Server.handOver, List.filter_append, hnone]
    simp

/-- A configuration with a listener that demands headers and a plain one. -/
def mixed : Config where
  listeners := [{ bindAddress := "127.0.0.1:80|P" }, { bindAddress := "127.0.0.1:81" }]

/-- A run in which the same header comes to both listeners, a request without one comes to the
first, and the second has accepted a client that has sent nothing. -/
def spoofed : List Event :=
  [.connect 0 (.v4 .unspecified 1), .connect 1 (.v4 .unspecified 2),
    .connect 0 (.v4 .unspecified 3), .connect 1 (.v4 .unspecified 4), .claim 0, .accept 0, .claim 1,
    .accept 1, .claim 0, .accept 0, .claim 1, .accept 1,
    .arrive 0 (.data (Bytes.ofText "PROXY UNKNOWN a b 1 2\r\nGET")), .look 0,
    .arrive 1 (.data (Bytes.ofText "PROXY UNKNOWN a b 1 2\r\n")), .look 1, .use 1 (.read 5),
    .arrive 2 (.data (Bytes.ofText "GET /")), .look 2]

/-- The server of that configuration on a host that puts every listener where it is wanted. -/
def mixedStart : Server :=
  ofBindings 5000 [⟨.v4 ⟨127, 0, 0, 1⟩ 80, .required, 10000⟩,
    ⟨.v4 ⟨127, 0, 0, 1⟩ 81, .disabled, 10000⟩]

/-- The first listener hands a header over, and sends nothing to a client that it rejects; the
second hands its clients over without one, also before it has seen anything of them. -/
theorem policy_not_bypassed_spoofed :
    ∃ server, mixedStart.run? spoofed = some server ∧
      (∃ handover ∈ server.handedOver 0, ∃ line header,
        line <+: (arrivals 0 spoofed).contentBy 5000 ∧ Header.parse line = .ok header ∧
        handover.origin.header = some header) ∧
      (∃ handover ∈ server.handedOver 1, handover.origin.header = none) ∧
      (∃ visit, server.visits[2]? = some visit ∧
        ∀ transport, visit.stage.transport? = some transport → transport.outlet.calls = []) ∧
      ∃ next handover, server.step? (.look 3) = some next ∧ next.handedOver 3 = [handover] ∧
        handover.origin.header = none := by
  have hstart : ((startOn anywhere mixed).run ()).1 = .ok mixedStart := rfl
  obtain ⟨server, hrun⟩ : ∃ server, mixedStart.run? spoofed = some server := ⟨_, rfl⟩
  have hplaces : (mixedStart.run? spoofed).map (·.visits.map (·.listener)) =
      some [0, 1, 0, 1] := rfl
  have haccepted : (mixedStart.run? spoofed).map (·.visits.all (·.stage.guard?.isSome)) =
      some true := rfl
  have hhanded : (mixedStart.run? spoofed).map (fun server => ((server.handedOver 0).length,
      (server.handedOver 1).length, server.handedOver 2, server.handedOver 3)) =
      some (1, 1, [], []) := rfl
  have hmarked : ({ bindAddress := "127.0.0.1:80|P" } : Config.Listener).Demands :=
    .inr ⟨"127.0.0.1:80".toList, rfl⟩
  have hplain : ¬({ bindAddress := "127.0.0.1:81" } : Config.Listener).Demands := by
    rw [Config.Listener.Demands]
    decide
  rw [hrun] at hplaces haccepted hhanded
  have hplace (client listener : Nat)
      (hlistener : ([0, 1, 0, 1] : List Nat)[client]? = some listener) :
      ∃ visit, server.visits[client]? = some visit ∧ visit.listener = listener := by
    rw [← Option.some.inj hplaces, List.getElem?_map] at hlistener
    exact Option.map_eq_some_iff.mp hlistener
  simp only [Option.map_some, Option.some.injEq, Prod.mk.injEq] at hhanded
  obtain ⟨hzero, hone, htwo, hthree⟩ := hhanded
  refine ⟨server, hrun, ?_, ?_, ?_, ?_⟩
  · obtain ⟨visit, hvisit, hlistener⟩ := hplace 0 0 rfl
    obtain ⟨_, listener, _, hfound, _, _, _, _, hrequired, _⟩ :=
      policy_not_bypassed hstart hrun hvisit
    rw [hlistener] at hfound
    cases hfound
    obtain ⟨handover, hhandover⟩ := List.length_eq_one_iff.mp hzero
    have hmem : handover ∈ server.handedOver 0 := hhandover ▸ List.mem_singleton_self handover
    obtain ⟨line, header, hopens, hparsed, hheader, _⟩ := hrequired hmarked handover hmem
    exact ⟨handover, hmem, line, header, hopens, hparsed, hheader⟩
  · obtain ⟨visit, hvisit, hlistener⟩ := hplace 1 1 rfl
    obtain ⟨_, listener, _, hfound, _, _, _, _, _, hdisabled⟩ :=
      policy_not_bypassed hstart hrun hvisit
    rw [hlistener] at hfound
    cases hfound
    obtain ⟨handover, hhandover⟩ := List.length_eq_one_iff.mp hone
    have hmem : handover ∈ server.handedOver 1 := hhandover ▸ List.mem_singleton_self handover
    exact ⟨handover, hmem, ((hdisabled hplain).1 handover hmem).1⟩
  · obtain ⟨visit, hvisit, _⟩ := hplace 2 0 rfl
    obtain ⟨_, _, _, _, _, _, _, hsilent, _⟩ := policy_not_bypassed hstart hrun hvisit
    exact ⟨visit, hvisit, (hsilent htwo).2.2⟩
  · obtain ⟨visit, hvisit, hlistener⟩ := hplace 3 1 rfl
    obtain ⟨_, listener, _, hfound, _, _, _, _, _, hdisabled⟩ :=
      policy_not_bypassed hstart hrun hvisit
    rw [hlistener] at hfound
    cases hfound
    have hguard : visit.stage.guard? ≠ none := by
      have hall := List.all_eq_true.mp (Option.some.inj haccepted) visit
        (List.mem_of_getElem? hvisit)
      exact Option.isSome_iff_ne_none.mp hall
    obtain ⟨next, handover, hnext, hhandover, hheader, _⟩ :=
      (hdisabled hplain).2 hguard hthree
    exact ⟨next, handover, hnext, hhandover, hheader⟩

end Server

end ProxyGate
