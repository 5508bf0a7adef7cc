import ProxyGate.Proofs.Server.Phases

/-!
# What a client comes to

`Relayed` says that the handler of a client gets what the stream of a search of that client alone
would give it, although it reads while the client is still sending.  `heard_of_run` says so for
every run, and `exists_looks` that a client which has sent all that is needed can be judged at once,
whatever the others do.
-/

namespace ProxyGate.Server

open Connection (Guard Origin)
open ProxyGate.Stream (Duplex Replay Script Answer Operation)
open Sniff (ComesTo)

/-! ## What a handler does -/

/-- What the handler of a client does with its stream in an event. -/
def Event.used (client : Nat) : Event → List Operation
  | .use other operation => if other = client then [operation] else []
  | _ => []

/-- All that the handler of a client has done with its stream. -/
def uses (client : Nat) (events : List Event) : List Operation :=
  events.flatMap (Event.used client)

theorem uses_append (client : Nat) (events : List Event) (event : Event) :
    uses client (events ++ [event]) = uses client events ++ event.used client := by
  rw [uses, List.flatMap_append, List.flatMap_singleton, uses]

theorem used_eq_nil {client : Nat} {event : Event}
    (h : ∀ operation, event ≠ .use client operation) : event.used client = [] := by
  cases event with
  | use other operation => exact if_neg fun hsame => h operation (by rw [hsame])
  | _ => rfl

/-! ## Streams -/

variable {limit : Nat} {policy : Policy} {script : Script} {operations : List Operation}
  {answers : List Answer} {header : Option Header} {stream : Replay Duplex}

/-- Whatever else is sent, a search of a client alone comes to this header and a stream that gives
these answers, and goes on like this. -/
def Relayed (limit : Nat) (policy : Policy) (script : Script) (operations : List Operation)
    (answers : List Answer) (header : Option Header) (stream : Replay Duplex) : Prop :=
  ∀ later, ∃ accepted,
    (Sniff.sniff Duplex.read limit (.ofScript (script ++ later)) policy).result = .ok accepted ∧
      accepted.header = header ∧ (accepted.stream.run operations).map Prod.fst = answers ∧
      accepted.stream.after operations = stream.map (·.append later)

theorem relayed_of_comesTo (h : ComesTo limit policy script (.ok ⟨header, stream⟩)) :
    Relayed limit policy script [] [] header stream :=
  fun later => ⟨_, h later, rfl, rfl, rfl⟩

theorem Relayed.push (h : Relayed limit policy script operations answers header stream)
    (step : Stream.Step) :
    Relayed limit policy (script ++ [step]) operations answers header
      (stream.map (·.push step)) := by
  intro later
  obtain ⟨accepted, hresult, hheader, hanswers, hafter⟩ := h ([step] ++ later)
  refine ⟨accepted, by rw [List.append_assoc, hresult], hheader, hanswers, ?_⟩
  rw [hafter, ← Replay.map_append_append]
  rfl

theorem Relayed.use (h : Relayed limit policy script operations answers header stream)
    {operation : Operation} (hready : stream.isReady operation = true) :
    Relayed limit policy script (operations ++ [operation])
      (answers ++ [(stream.step operation).1]) header (stream.step operation).2 := by
  intro later
  obtain ⟨accepted, hresult, hheader, hanswers, hafter⟩ := h later
  obtain ⟨hrun, hlast⟩ := accepted.stream.run_concat operations operation
  rw [hafter, Replay.step_append hready] at hrun hlast
  refine ⟨accepted, hresult, hheader, ?_, hlast⟩
  rw [hrun, List.map_append, hanswers]
  rfl

/-! ## The life of a client -/

/-- What the stage of a client says about what its handler has got, and whether the end of its data
is still to be read. -/
inductive Heard (limit : Nat) (policy : Policy) (script : Script) (operations : List Operation)
    (answers : List Answer) : Stage → Prop where
  | waiting {transport : Duplex} (hunused : operations = []) (hsilent : answers = []) :
      Heard limit policy script operations answers (.waiting transport)
  | refused (hunused : operations = []) (hsilent : answers = []) :
      Heard limit policy script operations answers .refused
  | sniffing {guard : Guard} {progress : Sniff.Progress Duplex} (hunused : operations = [])
      (hsilent : answers = []) (hcomplete : progress.source.inlet.isComplete = script.isComplete) :
      Heard limit policy script operations answers (.sniffing guard progress)
  | rejected {guard : Guard} {failure : Sniff.Failure} {transport : Duplex} {cleanup : Cleanup}
      (hsilent : answers = []) :
      Heard limit policy script operations answers
        (.over guard (.rejected failure) transport cleanup)
  | serving {guard : Guard} {origin : Origin} {stream : Replay Duplex}
      (h : Relayed limit policy script operations answers origin.header stream) :
      Heard limit policy script operations answers (.serving guard origin stream)
  | served {guard : Guard} {origin : Origin} {ending : Ending} {transport : Duplex}
      {cleanup : Cleanup} {held : Bytes}
      (h : Relayed limit policy script operations answers origin.header ⟨held, transport⟩) :
      Heard limit policy script operations answers
        (.over guard (.served origin ending) transport cleanup)

variable {server next : Server} {event : Event} {client : Nat} {visit later : Visit}
  {new handed : List Handover}

theorem Heard.push {stage : Stage} (h : Heard limit policy script operations answers stage)
    (step : Stream.Step) :
    Heard limit policy (script ++ [step]) operations answers
      (stage.mapTransport (·.push step)) := by
  cases h with
  | waiting hunused hsilent => exact .waiting hunused hsilent
  | refused hunused hsilent => exact .refused hunused hsilent
  | sniffing hunused hsilent hcomplete =>
    have happend : ∀ front : Script,
        (front ++ [step]).isComplete = (front.isComplete || Script.isComplete [step]) :=
      fun _ => List.any_append
    refine .sniffing hunused hsilent ?_
    rw [happend, ← hcomplete]
    exact happend _
  | rejected hsilent => exact .rejected hsilent
  | serving h => exact .serving (h.push step)
  | served h => exact .served (h.push step)

/-- A search that goes on has not come to the end of the data. -/
theorem isComplete_of_more {progress next : Sniff.Progress Duplex}
    (hlook : Look.once limit progress policy = .more next) :
    next.source.inlet.isComplete = progress.source.inlet.isComplete ∧
      next.room < progress.room := by
  have hlooked := looked_once limit progress policy
  rw [hlook] at hlooked
  cases hlooked with
  | more hstep =>
    have hmove := Sniff.move_step Duplex.read limit progress
    rw [hstep] at hmove
    cases hmove with
    | more hread _ hsome =>
      refine ⟨Duplex.isComplete_of_read hread ?_, Sniff.room_lt_of_step_reading hstep⟩
      rintro rfl
      exact hsome List.take_nil

/-- A turn in which nothing comes from a client and its stream is not used. -/
theorem Heard.turn {place : Place} (hbinding : ∀ listening,
      server.listeners[visit.listener]? = some listening → listening.binding = place.binding)
    (hpast : Past server.headerTimeout place script visit.answers visit.stage handed)
    (h : Heard server.headerTimeout place.binding.policy script operations visit.answers
      visit.stage)
    (hturn : Turn server client visit event later new)
    (harrive : ∀ step, event ≠ .arrive client step)
    (huse : ∀ operation, event ≠ .use client operation) :
    Heard server.headerTimeout place.binding.policy script operations later.answers
      later.stage := by
  cases hturn with
  | rest => exact h
  | arrive step => exact absurd rfl (harrive step)
  | use => exact absurd rfl (huse _)
  | accept _ _ hstage =>
    rw [hstage] at h hpast
    cases h with
    | waiting hunused hsilent =>
      cases hpast with
      | waiting => exact .sniffing hunused hsilent rfl
  | refuse hstage =>
    rw [hstage] at h
    cases h with
    | waiting hunused hsilent => exact .refused hunused hsilent
  | more _ hstage _ hlook =>
    rw [hstage] at h
    cases h with
    | sniffing hunused hsilent hcomplete =>
      exact .sniffing hunused hsilent ((isComplete_of_more hlook).1.trans hcomplete)
  | reject _ hstage =>
    rw [hstage] at h
    cases h with
    | sniffing _ hsilent => exact .rejected hsilent
  | handOver hlistening hstage hready hlook horigin =>
    rw [hstage] at h hpast
    rw [hbinding _ hlistening] at hready hlook
    cases h with
    | sniffing hunused hsilent =>
      cases hpast with
      | sniffing _ hsearch =>
        rw [hunused, hsilent, horigin]
        exact .serving (relayed_of_comesTo (hsearch.accepted hready hlook))
  | finish hstage =>
    rw [hstage] at h
    cases h with
    | serving h => exact .served h
  | dropGuard hstage | giveBack hstage =>
    rw [hstage] at h
    cases h with
    | rejected hsilent => exact .rejected hsilent
    | served h => exact .served h

theorem heard_of_turn {place : Place} (hbinding : ∀ listening,
      server.listeners[visit.listener]? = some listening → listening.binding = place.binding)
    (hpast : Past server.headerTimeout place script visit.answers visit.stage handed)
    (h : Heard server.headerTimeout place.binding.policy script operations visit.answers
      visit.stage)
    (hturn : Turn server client visit event later new) :
    Heard server.headerTimeout place.binding.policy (script ++ event.arrived client)
      (operations ++ event.used client) later.answers later.stage := by
  by_cases harrive : ∃ step, event = .arrive client step
  · obtain ⟨step, rfl⟩ := harrive
    cases hturn with
    | rest hevent => exact absurd rfl hevent
    | arrive step =>
      have harrived : (Event.arrive client step).arrived client = [step] := if_pos rfl
      have hused : (Event.arrive client step).used client = [] := rfl
      rw [harrived, hused, List.append_nil]
      exact h.push step
  · have harrive : ∀ step, event ≠ .arrive client step := fun step h => harrive ⟨step, h⟩
    rw [arrived_eq_nil harrive, List.append_nil]
    by_cases huse : ∃ operation, event = .use client operation
    · obtain ⟨operation, rfl⟩ := huse
      have hused : (Event.use client operation).used client = [operation] := if_pos rfl
      rw [hused]
      cases hturn with
      | rest hevent => exact absurd rfl hevent
      | use hstage hready =>
        rw [hstage] at h
        cases h with
        | serving h => exact .serving (h.use hready)
    · have huse : ∀ operation, event ≠ .use client operation :=
        fun operation h => huse ⟨operation, h⟩
      rw [used_eq_nil huse, List.append_nil]
      exact h.turn hbinding hpast hturn harrive huse

variable {headerTimeout : Nat} {bindings : List Config.Binding} {events : List Event}

/-- What a handler has got is what a search of the client alone would have given it. -/
theorem heard_of_run (h : (ofBindings headerTimeout bindings).run? events = some server)
    (hvisit : server.visits[client]? = some visit) {binding : Config.Binding}
    (hbinding : bindings[visit.listener]? = some binding) :
    Heard headerTimeout binding.policy (arrivals client events) (uses client events)
      visit.answers visit.stage := by
  refine client_induction (p := fun events visit => ∀ binding,
    bindings[visit.listener]? = some binding →
      Heard headerTimeout binding.policy (arrivals client events) (uses client events)
        visit.answers visit.stage) rfl rfl ?_ ?_ h hvisit binding hbinding
  · intro events listener peer hevents binding _
    refine .waiting (List.flatMap_eq_nil_iff.mpr fun event hmem => used_eq_nil ?_) rfl
    rintro operation rfl
    exact hevents _ hmem rfl
  · intro events event server next visit later new hrun _ hvisit _ hturn ih binding hbinding
    rw [hturn.same.1] at hbinding
    obtain ⟨_, hfound, hpast⟩ := past_of_run hrun hvisit
    cases hbinding.symm.trans hfound
    have hthere : ∀ listening, server.listeners[visit.listener]? = some listening →
        listening.binding = binding := fun _ => binding_of_run hrun hbinding
    obtain ⟨rfl, _⟩ := settings_of_run_ofBindings hrun
    rw [arrivals_append, uses_append]
    exact heard_of_turn hthere hpast (ih binding hbinding) hturn

/-! ## What it comes to -/

/-- What becomes of a client by the result of a search: it is rejected with its failure, and gets
nothing; or it is handed over with its header, and the handler gets what its stream gives. -/
def Settled (client : Nat) (binding : Config.Binding) (operations : List Operation) (visit : Visit)
    (handed : List Handover) : Except Sniff.Failure (Sniff.Accepted Duplex) → Prop
  | .error failure => visit.stage.failure? = some failure ∧ handed = [] ∧ visit.answers = []
  | .ok accepted => ∃ id stream,
      handed = [⟨client, ⟨id, visit.peer, binding.address, accepted.header⟩, stream⟩] ∧
        visit.answers = (accepted.stream.run operations).map Prod.fst

theorem settled_of_relayed {place : Place} {id : Nat} {origin : Origin} {handover : Handover}
    {rest : Replay Duplex} (hpeer : place.peer = visit.peer)
    (hserved : Served limit place script answers id origin rest handover)
    (hrelayed : Relayed limit place.binding.policy script operations visit.answers origin.header
      stream) (later : Script) :
    Settled place.client place.binding operations visit [handover]
      (Sniff.sniff Duplex.read limit (.ofScript (script ++ later))
        place.binding.policy).result := by
  obtain ⟨accepted, hresult, hheader, hanswers, _⟩ := hrelayed later
  rw [hresult, Settled, hheader, hserved.recorded, hserved.own, hpeer]
  exact ⟨_, _, rfl, hanswers.symm⟩

/-- A client that has been judged has come to what a search of it alone comes to, whatever it still
sends. -/
theorem settled_of_past {place : Place} (hpeer : place.peer = visit.peer)
    (hpast : Past limit place script visit.answers visit.stage handed)
    (hheard : Heard limit place.binding.policy script operations visit.answers visit.stage)
    (hjudged : visit.stage.isJudged = true) (later : Script) :
    Settled place.client place.binding operations visit handed
      (Sniff.sniff Duplex.read limit (.ofScript (script ++ later))
        place.binding.policy).result := by
  generalize hstage : visit.stage = stage at hpast hheard hjudged
  cases hpast with
  | waiting | refused | sniffing => cases hjudged
  | rejected hunused hresult =>
    rw [hresult later, Except.map, Settled, hstage]
    exact ⟨rfl, rfl, hunused⟩
  | serving hserved =>
    cases hheard with
    | serving hrelayed => exact settled_of_relayed hpeer hserved hrelayed later
  | served hserved =>
    cases hheard with
    | served hrelayed => exact settled_of_relayed hpeer hserved hrelayed later

/-- Nothing was handed over of a client that has not been judged. -/
theorem Past.unjudged {place : Place} {stage : Stage}
    (h : Past limit place script answers stage handed) (hstage : stage.isJudged = false) :
    handed = [] ∧ answers = [] := by
  cases h with
  | waiting hunused | refused hunused | sniffing hunused => exact ⟨rfl, hunused⟩
  | serving | rejected | served => cases hstage

/-- A client whose end is known, or of which no header is demanded, can be judged at once. -/
theorem exists_looks {listening : Listening} {guard : Guard} {progress : Sniff.Progress Duplex}
    (hvisit : server.visits[client]? = some visit)
    (hlistening : server.listeners[visit.listener]? = some listening)
    (hstage : visit.stage = .sniffing guard progress)
    (hend : listening.binding.policy = .disabled ∨ progress.source.inlet.isComplete = true) :
    ∃ looks last later, server.run? (List.replicate looks (.look client)) = some last ∧
      last.visits[client]? = some later ∧ later.stage.isJudged = true := by
  -- Every look that goes on leaves the search less room.
  induction hroom : progress.room using Nat.strongRecOn generalizing server visit progress with
  | ind room ih =>
    subst hroom
    have hready : canLook progress listening.binding.policy = true := by
      cases hpolicy : listening.binding.policy with
      | disabled => rfl
      | required =>
        rw [hpolicy] at hend
        exact Script.isReady_of_isComplete (hend.resolve_left nofun)
    have heffect := effect_of_look hvisit hlistening hstage hready
    have hsame : ∀ stage, (server.setStage client stage).visits[client]? =
        some { visit with stage } := by
      intro stage
      rw [setStage, List.getElem?_modify_eq, hvisit]
      rfl
    rw [look] at heffect
    cases hlook : Look.once server.headerTimeout progress listening.binding.policy with
    | more next =>
      rw [hlook] at heffect
      obtain ⟨hcomplete, hless⟩ := isComplete_of_more hlook
      obtain ⟨looks, last, later, hrun, hlater, hjudged⟩ :=
        ih next.room hless (hsame (.sniffing guard next)) hlistening rfl (by rwa [hcomplete]) rfl
      exact ⟨looks + 1, last, later, (run?_cons heffect _).trans hrun, hlater, hjudged⟩
    | rejected failure transport =>
      rw [hlook] at heffect
      exact ⟨1, server.reject client guard failure transport, _, run?_cons heffect [],
        hsame _, rfl⟩
    | accepted header stream =>
      rw [hlook] at heffect
      exact ⟨1, server.handOver client guard listening.binding.policy
        ⟨guard.id, visit.peer, listening.binding.address, header⟩ stream, _,
        run?_cons heffect [], hsame _, rfl⟩

/-- An accepted client of which enough has come can be judged at once, in every run. -/
theorem exists_looks_of_run (h : (ofBindings headerTimeout bindings).run? events = some server)
    (hvisit : server.visits[client]? = some visit) {binding : Config.Binding}
    (hbinding : bindings[visit.listener]? = some binding) (hguard : visit.stage.guard? ≠ none)
    (hend : binding.policy = .disabled ∨ (arrivals client events).isComplete = true) :
    ∃ looks last later, server.run? (List.replicate looks (.look client)) = some last ∧
      last.visits[client]? = some later ∧ later.stage.isJudged = true := by
  have hheard := heard_of_run h hvisit hbinding
  generalize hstage : visit.stage = stage at hheard hguard
  cases hheard with
  | waiting | refused => exact absurd rfl hguard
  | rejected | serving | served => exact ⟨0, server, visit, rfl, hvisit, by rw [hstage]; rfl⟩
  | sniffing _ _ hcomplete =>
    obtain ⟨listening, hlistening⟩ : ∃ listening, server.listeners[visit.listener]? =
        some listening := by
      rw [← (settings_of_run_ofBindings h).2, List.getElem?_map] at hbinding
      obtain ⟨listening, hlistening, _⟩ := Option.map_eq_some_iff.mp hbinding
      exact ⟨listening, hlistening⟩
    rw [← binding_of_run h hbinding hlistening, ← hcomplete] at hend
    exact exists_looks hvisit hlistening hstage hend

end ProxyGate.Server
