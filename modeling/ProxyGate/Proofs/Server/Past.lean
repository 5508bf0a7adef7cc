import ProxyGate.Proofs.Server.Identity
import ProxyGate.Proofs.Sniff.Append

/-!
# What a client has been through

`Past` ties the stage of a client to what its peer has sent: a search stands where a search of that
client alone would stand, a connection that was rejected or served has the result of such a search,
and the bytes that were delivered are the first of those that the search left.  `past_of_turn` says
that a turn keeps this, and `past_of_run` that it holds of every client in every run.  Other clients
do not occur in it.
-/

namespace ProxyGate.Server

open Connection (Guard Origin)
open ProxyGate.Stream (Duplex Replay Script Answer)
open Sniff (Reaches ComesTo)

/-! ## What a client sends -/

/-- What comes from a client in an event. -/
def Event.arrived (client : Nat) : Event → Script
  | .arrive other step => if other = client then [step] else []
  | _ => []

/-- All that has come from a client. -/
def arrivals (client : Nat) (events : List Event) : Script :=
  events.flatMap (Event.arrived client)

theorem arrivals_append (client : Nat) (events : List Event) (event : Event) :
    arrivals client (events ++ [event]) = arrivals client events ++ event.arrived client := by
  rw [arrivals, List.flatMap_append, List.flatMap_singleton, arrivals]

theorem arrived_eq_nil {client : Nat} {event : Event} (h : ∀ step, event ≠ .arrive client step) :
    event.arrived client = [] := by
  cases event with
  | arrive other step => exact if_neg fun hsame => h step (by rw [hsame])
  | _ => rfl

/-! ## Searches -/

/-- A search stands where a search of the client alone comes by. -/
inductive Searches (limit : Nat) (script : Script) (progress : Sniff.Progress Duplex) :
    Policy → Prop where
  | disabled (h : progress = .start (.ofScript script)) : Searches limit script progress .disabled
  | required (h : Reaches limit script progress) : Searches limit script progress .required

variable {limit : Nat} {script : Script} {progress : Sniff.Progress Duplex} {policy : Policy}

theorem searches_start (limit : Nat) (script : Script) (policy : Policy) :
    Searches limit script (.start (.ofScript script)) policy := by
  cases policy with
  | disabled => exact .disabled rfl
  | required => exact .required (Sniff.reaches_start limit script)

theorem Searches.push (h : Searches limit script progress policy) (step : Stream.Step) :
    Searches limit (script ++ [step]) (progress.map (·.push step)) policy := by
  cases h with
  | disabled h =>
    rw [h]
    exact .disabled rfl
  | required h => exact .required (h.push step)

/-- Everything that a look can be. -/
inductive Looked (limit : Nat) (progress : Sniff.Progress Duplex) : Policy → Look → Prop where
  | disabled : Looked limit progress .disabled (.accepted none (.direct progress.source))
  | more {next : Sniff.Progress Duplex}
      (hstep : Sniff.step Duplex.read limit progress = .reading next) :
      Looked limit progress .required (.more next)
  | rejected {last : Sniff.Progress Duplex} {outcome : Except Sniff.Failure Nat}
      {failure : Sniff.Failure}
      (hstep : Sniff.step Duplex.read limit progress = .ended last outcome)
      (hconclude : Sniff.conclude last outcome = .error failure) :
      Looked limit progress .required (.rejected failure last.source)
  | accepted {last : Sniff.Progress Duplex} {outcome : Except Sniff.Failure Nat}
      {accepted : Sniff.Accepted Duplex}
      (hstep : Sniff.step Duplex.read limit progress = .ended last outcome)
      (hconclude : Sniff.conclude last outcome = .ok accepted) :
      Looked limit progress .required (.accepted accepted.header accepted.stream)

theorem looked_once (limit : Nat) (progress : Sniff.Progress Duplex) (policy : Policy) :
    Looked limit progress policy (Look.once limit progress policy) := by
  cases policy with
  | disabled => exact .disabled
  | required =>
    rw [Look.once]
    cases hstep : Sniff.step Duplex.read limit progress with
    | reading next => exact .more hstep
    | ended last outcome =>
      dsimp only
      unfold Look.ofSearch
      cases hconclude : Sniff.conclude last outcome with
      | error failure => exact .rejected hstep hconclude
      | ok accepted => exact .accepted hstep hconclude

/-- A look that goes on is a step of the search of the client alone. -/
theorem Searches.more {next : Sniff.Progress Duplex} (h : Searches limit script progress policy)
    (hready : canLook progress policy = true)
    (hlook : Look.once limit progress policy = .more next) : Searches limit script next policy := by
  have hlooked := looked_once limit progress policy
  rw [hlook] at hlooked
  cases hlooked with
  | more hstep =>
    cases h with
    | required h => exact .required (h.reading hready hstep)

theorem Searches.rejected {failure : Sniff.Failure} {transport : Duplex}
    (h : Searches limit script progress policy) (hready : canLook progress policy = true)
    (hlook : Look.once limit progress policy = .rejected failure transport) :
    ComesTo limit policy script (.error failure) := by
  have hlooked := looked_once limit progress policy
  rw [hlook] at hlooked
  cases hlooked with
  | rejected hstep hconclude =>
    cases h with
    | required h =>
      rw [← hconclude]
      exact Sniff.comesTo_of_ended h hready hstep

theorem Searches.accepted {header : Option Header} {stream : Replay Duplex}
    (h : Searches limit script progress policy) (hready : canLook progress policy = true)
    (hlook : Look.once limit progress policy = .accepted header stream) :
    ComesTo limit policy script (.ok ⟨header, stream⟩) := by
  have hlooked := looked_once limit progress policy
  rw [hlook] at hlooked
  cases hlooked with
  | disabled =>
    cases h with
    | disabled h =>
      rw [h]
      exact Sniff.comesTo_disabled limit script
  | accepted hstep hconclude =>
    cases h with
    | required h =>
      have hcomes := Sniff.comesTo_of_ended h hready hstep
      rwa [hconclude] at hcomes

theorem outlet_of_more {next : Sniff.Progress Duplex}
    (hlook : Look.once limit progress policy = .more next) :
    next.source.outlet = progress.source.outlet := by
  have hlooked := looked_once limit progress policy
  have hkeeps := Sniff.step_keeps Duplex.read_keeps_outlet limit progress
  rw [hlook] at hlooked
  cases hlooked with
  | more hstep => rwa [hstep] at hkeeps

theorem outlet_of_rejected {failure : Sniff.Failure} {transport : Duplex}
    (hlook : Look.once limit progress policy = .rejected failure transport) :
    transport.outlet = progress.source.outlet := by
  have hlooked := looked_once limit progress policy
  have hkeeps := Sniff.step_keeps Duplex.read_keeps_outlet limit progress
  rw [hlook] at hlooked
  cases hlooked with
  | rejected hstep _ => rwa [hstep] at hkeeps

/-! ## The past of a client -/

/-- Whom a client is to its server: where it is, who it is, and what its listener is like. -/
structure Place where
  client : Nat
  peer : Address.Socket
  binding : Config.Binding

/-- A client that was handed over: what it was handed over with, and what its stream has left after
the answers so far. -/
structure Served (limit : Nat) (place : Place) (script : Script) (answers : List Answer) (id : Nat)
    (origin : Origin) (stream : Replay Duplex) (handover : Handover) : Prop where
  /-- The origin is that of the client. -/
  own : origin = ⟨id, place.peer, place.binding.address, origin.header⟩
  recorded : handover = ⟨place.client, origin, handover.stream⟩
  /-- What had come before came to the header and the stream, and the stream goes on with what has
  come since. -/
  behind : ∃ before since, script = before ++ since ∧
    ComesTo limit place.binding.policy before (.ok ⟨origin.header, handover.stream⟩) ∧
    answers.flatMap Answer.bytes ++ stream.bytes = handover.stream.bytes ++ since.bytes

/-- What the stage of a client and what was handed over of it say about what it has sent. -/
inductive Past (limit : Nat) (place : Place) (script : Script) (answers : List Answer) :
    Stage → List Handover → Prop where
  | waiting (hunused : answers = []) :
      Past limit place script answers (.waiting (.ofScript script)) []
  | refused (hunused : answers = []) : Past limit place script answers .refused []
  | sniffing {guard : Guard} {progress : Sniff.Progress Duplex} (hunused : answers = [])
      (hsearch : Searches limit script progress place.binding.policy)
      (hsilent : progress.source.outlet = {}) :
      Past limit place script answers (.sniffing guard progress) []
  | serving {guard : Guard} {origin : Origin} {stream : Replay Duplex} {handover : Handover}
      (h : Served limit place script answers guard.id origin stream handover) :
      Past limit place script answers (.serving guard origin stream) [handover]
  | rejected {guard : Guard} {failure : Sniff.Failure} {transport : Duplex} {cleanup : Cleanup}
      (hunused : answers = [])
      (hresult : ComesTo limit place.binding.policy script (.error failure))
      (hsilent : transport.outlet = {}) :
      Past limit place script answers (.over guard (.rejected failure) transport cleanup) []
  | served {guard : Guard} {origin : Origin} {ending : Ending} {transport : Duplex}
      {cleanup : Cleanup} {held : Bytes} {handover : Handover}
      (h : Served limit place script answers guard.id origin ⟨held, transport⟩ handover) :
      Past limit place script answers (.over guard (.served origin ending) transport cleanup)
        [handover]

variable {place : Place} {answers : List Answer}

/-- What comes for a served client comes behind its stream. -/
theorem Served.push {id : Nat} {origin : Origin} {stream : Replay Duplex} {handover : Handover}
    (h : Served limit place script answers id origin stream handover) (step : Stream.Step) :
    Served limit place (script ++ [step]) answers id origin (stream.map (·.push step))
      handover := by
  obtain ⟨before, since, rfl, hresult, hbytes⟩ := h.behind
  refine ⟨h.own, h.recorded, before, since ++ [step], List.append_assoc _ _ _, hresult, ?_⟩
  have hpush : (stream.map (·.push step)).bytes = stream.bytes ++ Script.bytes [step] :=
    stream.bytes_append [step]
  rw [hpush, Script.bytes_append, ← List.append_assoc, hbytes, List.append_assoc]

/-- What a handler gets comes off the front of its stream. -/
theorem Served.use {id : Nat} {origin : Origin} {stream : Replay Duplex} {handover : Handover}
    (h : Served limit place script answers id origin stream handover)
    (operation : Stream.Operation) :
    Served limit place script (answers ++ [(stream.step operation).1]) id origin
      (stream.step operation).2 handover := by
  obtain ⟨before, since, hscript, hresult, hbytes⟩ := h.behind
  refine ⟨h.own, h.recorded, before, since, hscript, hresult, ?_⟩
  rw [List.flatMap_append, List.flatMap_singleton, List.append_assoc,
    Replay.step_conserves, hbytes]

theorem Past.push {stage : Stage} {handed : List Handover}
    (h : Past limit place script answers stage handed) (step : Stream.Step) :
    Past limit place (script ++ [step]) answers (stage.mapTransport (·.push step)) handed := by
  cases h with
  | waiting hunused => exact .waiting hunused
  | refused hunused => exact .refused hunused
  | sniffing hunused hsearch hsilent => exact .sniffing hunused (hsearch.push step) hsilent
  | serving h => exact .serving (h.push step)
  | rejected hunused hresult hsilent =>
    exact .rejected hunused (hresult.error_append [step]) hsilent
  | served h => exact .served (h.push step)

/-- A turn in which nothing comes from a client keeps its past. -/
theorem Past.turn {server : Server} {visit later : Visit} {event : Event}
    {handed new : List Handover} (hpeer : place.peer = visit.peer)
    (hbinding : ∀ listening, server.listeners[visit.listener]? = some listening →
      listening.binding = place.binding)
    (h : Past server.headerTimeout place script visit.answers visit.stage handed)
    (hturn : Turn server place.client visit event later new)
    (hevent : ∀ step, event ≠ .arrive place.client step) :
    Past server.headerTimeout place script later.answers later.stage (handed ++ new) := by
  cases hturn with
  | rest =>
    rw [List.append_nil]
    exact h
  | arrive step => exact absurd rfl (hevent step)
  | accept hlistening hfirst hstage =>
    rw [hstage] at h
    cases h with
    | waiting hunused => exact .sniffing hunused (searches_start _ _ _) rfl
  | more hlistening hstage hready hlook =>
    rw [hstage] at h
    rw [hbinding _ hlistening] at hready hlook
    cases h with
    | sniffing hunused hsearch hsilent =>
      exact .sniffing hunused (hsearch.more hready hlook) ((outlet_of_more hlook).trans hsilent)
  | reject hlistening hstage hready hlook =>
    rw [hstage] at h
    rw [hbinding _ hlistening] at hready hlook
    cases h with
    | sniffing hunused hsearch hsilent =>
      exact .rejected hunused (hsearch.rejected hready hlook)
        ((outlet_of_rejected hlook).trans hsilent)
  | handOver hlistening hstage hready hlook horigin =>
    -- The result is that of all that has come so far, and nothing has come since.
    rw [hstage] at h
    have hbinding := hbinding _ hlistening
    rw [hbinding] at hready hlook
    cases h with
    | sniffing hunused hsearch hsilent =>
      refine .serving ⟨?_, rfl, script, [], (List.append_nil script).symm, ?_, ?_⟩
      · rw [horigin, id_changeAll, hbinding, hpeer]
      · rw [horigin]
        exact hsearch.accepted hready hlook
      · rw [hunused]
        exact (List.append_nil _).symm
  | use hstage hready =>
    rw [hstage] at h
    cases h with
    | serving h => exact .serving (h.use _)
  | finish hstage =>
    rw [hstage] at h
    cases h with
    | serving h => exact .served h
  | dropGuard hstage =>
    rw [hstage] at h
    cases h with
    | rejected hunused hresult hsilent => exact .rejected hunused hresult hsilent
    | served h => exact .served h
  | giveBack hstage =>
    rw [hstage] at h
    cases h with
    | rejected hunused hresult hsilent => exact .rejected hunused hresult hsilent
    | served h => exact .served h
  | refuse hstage =>
    rw [hstage] at h
    cases h with
    | waiting hunused => exact .refused hunused

/-- A turn keeps the past of a client. -/
theorem past_of_turn {server : Server} {visit later : Visit} {event : Event}
    {handed new : List Handover} (hpeer : place.peer = visit.peer)
    (hbinding : ∀ listening, server.listeners[visit.listener]? = some listening →
      listening.binding = place.binding)
    (h : Past server.headerTimeout place script visit.answers visit.stage handed)
    (hturn : Turn server place.client visit event later new) :
    Past server.headerTimeout place (script ++ event.arrived place.client) later.answers
      later.stage (handed ++ new) := by
  by_cases harrive : ∃ step, event = .arrive place.client step
  · obtain ⟨step, rfl⟩ := harrive
    cases hturn with
    | rest hevent => exact absurd rfl hevent
    | arrive step =>
      have harrived : (Event.arrive place.client step).arrived place.client = [step] := if_pos rfl
      rw [harrived, List.append_nil]
      exact h.push step
  · have hevent : ∀ step, event ≠ .arrive place.client step := fun step h => harrive ⟨step, h⟩
    rw [arrived_eq_nil hevent, List.append_nil]
    exact h.turn hpeer hbinding hturn hevent

/-- Every client has its past, in every run. -/
theorem past_of_run {headerTimeout : Nat} {bindings : List Config.Binding} {events : List Event}
    {server : Server} (h : (ofBindings headerTimeout bindings).run? events = some server)
    {client : Nat} {visit : Visit} (hvisit : server.visits[client]? = some visit) :
    ∃ binding, bindings[visit.listener]? = some binding ∧
      Past headerTimeout ⟨client, visit.peer, binding⟩ (arrivals client events) visit.answers
        visit.stage (server.handedOver client) := by
  refine life_induction (p := fun events visit handed => ∃ binding,
    bindings[visit.listener]? = some binding ∧
      Past headerTimeout ⟨client, visit.peer, binding⟩ (arrivals client events) visit.answers
        visit.stage handed) rfl rfl ?_ ?_ h hvisit
  · intro events server listener peer hrun hopen habsent
    obtain ⟨_, hbindings⟩ := settings_of_run_ofBindings hrun
    have hlt : listener < bindings.length := by
      rw [← hbindings, List.length_map]
      exact lt_of_isOpen hopen
    -- Whoever sends has connected, so that a new client has sent nothing.
    have hnone : arrivals client (events ++ [.connect listener peer]) = [] := by
      rw [arrivals_append, List.append_eq_nil_iff]
      refine ⟨List.flatMap_eq_nil_iff.mpr fun event hmem => arrived_eq_nil ?_, rfl⟩
      rintro step rfl
      exact habsent _ hmem rfl
    refine ⟨bindings[listener], List.getElem?_eq_getElem hlt, ?_⟩
    rw [hnone]
    exact .waiting rfl
  · rintro events event server visit later handed new hrun ⟨binding, hbinding, hpast⟩ hturn
    obtain ⟨rfl, hbindings⟩ := settings_of_run_ofBindings hrun
    obtain ⟨hlistener, hpeer⟩ := hturn.same
    refine ⟨binding, by rw [hlistener, hbinding], ?_⟩
    rw [arrivals_append, hpeer]
    refine past_of_turn rfl ?_ hpast hturn
    intro listening hlistening
    rw [← hbindings, List.getElem?_map, hlistening, Option.map_some, Option.some.injEq] at hbinding
    exact hbinding

end ProxyGate.Server
