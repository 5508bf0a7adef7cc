import ProxyGate.Proofs.Server.History
import ProxyGate.Proofs.Server.Past

/-!
# The phases of a connection

`Stage.path` is the phases that a client has been in.  `phased_of_run` says that its guard is in the
last of them, and `changes_of_run` that what the log has of the changes that were asked for is one
entry for each step of the path.  A guard is therefore only asked for changes that it may make:
`allowed_of_run`.
-/

namespace ProxyGate.Server

open Connection (Guard Phase)
open ProxyGate.Stream (Duplex Replay)

/-! ## Paths -/

/-- The phases of a connection on its way to the handler. -/
def servedPath : Policy → List Phase
  | .disabled => [.unchecked, .streaming]
  | .required => [.awaitingHeader, .headerParsed, .streaming]

namespace Stage

/-- Whether the search for a header has ended, or there was none. -/
def isJudged : Stage → Bool
  | .serving _ _ _ | .over _ _ _ _ => true
  | .waiting _ | .refused | .sniffing _ _ => false

/-- Why a client was rejected. -/
def failure? : Stage → Option Sniff.Failure
  | .over _ (.rejected failure) _ _ => some failure
  | .waiting _ | .refused | .sniffing _ _ | .serving _ _ _ | .over _ (.served _ _) _ _ => none

/-- The phases that a client has been in, by the policy of its listener. -/
def path (stage : Stage) (policy : Policy) : List Phase :=
  match stage with
  | .waiting _ | .refused => []
  | .sniffing _ _ => [.initial policy]
  | .serving _ _ _ | .over _ (.served _ _) _ _ => servedPath policy
  | .over _ (.rejected _) _ _ => [.awaitingHeader, .failed]

variable (stage : Stage) (f : Duplex → Duplex) (policy : Policy)

@[simp] theorem guard?_mapTransport : (stage.mapTransport f).guard? = stage.guard? := by
  cases stage <;> rfl

@[simp] theorem isJudged_mapTransport : (stage.mapTransport f).isJudged = stage.isJudged := by
  cases stage <;> rfl

@[simp] theorem failure?_mapTransport : (stage.mapTransport f).failure? = stage.failure? := by
  fun_cases failure? stage <;> rfl

@[simp] theorem path_mapTransport : (stage.mapTransport f).path policy = stage.path policy := by
  fun_cases path stage policy <;> rfl

/-- A path only has changes that a guard may make. -/
theorem isChain_path : (stage.path policy).IsChain fun first second =>
    first.canBecome second = true := by
  fun_cases path stage policy with
  | case1 | case2 | case3 | case6 => simp [Phase.canBecome]
  | case4 | case5 => cases policy <;> simp [servedPath, Phase.canBecome]

end Stage

/-- The entries for the steps of the path of a guard, by its number. -/
def changeEntries (id : Nat) : List Phase → List Log.Entry
  | first :: second :: rest =>
    Guard.changeEntry ⟨id, first⟩ second :: changeEntries id (second :: rest)
  | [_] | [] => []

/-- The entries for the steps of the path of a client, if it has a guard. -/
def Stage.changeEntries (stage : Stage) (policy : Policy) : List Log.Entry :=
  stage.guard?.elim [] fun guard => Server.changeEntries guard.id (stage.path policy)

@[simp] theorem Stage.changeEntries_mapTransport (stage : Stage) (f : Duplex → Duplex)
    (policy : Policy) : (stage.mapTransport f).changeEntries policy = stage.changeEntries policy := by
  rw [changeEntries, guard?_mapTransport, path_mapTransport]
  rfl

theorem message_of_mem_changeEntries {id : Nat} {path : List Phase} {entry : Log.Entry}
    (h : path.IsChain fun first second => first.canBecome second = true)
    (hmem : entry ∈ changeEntries id path) : entry.message = "Connection state" := by
  fun_induction changeEntries id path with
  | case1 first second rest ih =>
    rw [List.isChain_cons_cons] at h
    rcases List.mem_cons.mp hmem with rfl | hmem
    · rw [Guard.changeEntry, if_pos h.1]
    · exact ih h.2 hmem
  | case2 | case3 => exact absurd hmem List.not_mem_nil

theorem Stage.message_of_mem_changeEntries {stage : Stage} {policy : Policy} {entry : Log.Entry}
    (hmem : entry ∈ stage.changeEntries policy) : entry.message = "Connection state" := by
  rw [changeEntries] at hmem
  cases hguard : stage.guard? with
  | none =>
    rw [hguard] at hmem
    exact absurd hmem List.not_mem_nil
  | some guard =>
    rw [hguard] at hmem
    exact Server.message_of_mem_changeEntries (stage.isChain_path policy) hmem

/-! ## Guards -/

/-- The guard of a client is where the client is. -/
structure Phased (policy : Policy) (stage : Stage) : Prop where
  phase : stage.guard?.map Guard.phase = (stage.path policy).getLast?
  /-- Nobody is rejected where no header is demanded. -/
  demanded : ∀ failure, stage.failure? = some failure → policy = .required

variable {server next : Server} {event : Event} {client : Nat} {visit : Visit} {policy : Policy}

theorem required_of_rejected {limit : Nat} {progress : Sniff.Progress Duplex}
    {failure : Sniff.Failure} {transport : Duplex}
    (hlook : Look.once limit progress policy = .rejected failure transport) :
    policy = .required := by
  cases policy with
  | disabled => cases hlook
  | required => rfl

theorem Phased.of_unfailed {stage : Stage}
    (hphase : stage.guard?.map Guard.phase = (stage.path policy).getLast?)
    (hnone : stage.failure? = none) : Phased policy stage := by
  refine ⟨hphase, fun failure hfailure => ?_⟩
  rw [hnone] at hfailure
  cases hfailure

theorem Phased.sniffing {guard : Guard} {progress : Sniff.Progress Duplex}
    (h : Phased policy (.sniffing guard progress)) : guard.phase = .initial policy :=
  Option.some.inj h.phase

theorem phased_of_turn {later : Visit} {new : List Handover}
    (hpolicy : ∀ listening, server.listeners[visit.listener]? = some listening →
      listening.binding.policy = policy)
    (h : Phased policy visit.stage) (hturn : Turn server client visit event later new) :
    Phased policy later.stage := by
  cases hturn with
  | rest => exact h
  | arrive => exact ⟨by simpa using h.phase, by simpa using h.demanded⟩
  | accept hlistening _ hstage =>
    rw [hpolicy _ hlistening]
    exact .of_unfailed rfl rfl
  | more hlistening hstage =>
    rw [hstage] at h
    exact .of_unfailed h.phase rfl
  | @reject _ guard _ _ _ hlistening hstage _ hlook =>
    rw [hstage] at h
    rw [hpolicy _ hlistening] at hlook
    have hrequired := required_of_rejected hlook
    subst hrequired
    refine ⟨?_, fun _ _ => rfl⟩
    have hphase : (guard.change .failed).1.phase = .failed := by
      rw [Guard.change, h.sniffing]
      rfl
    exact congrArg some hphase
  | @handOver listening guard _ _ _ _ hlistening hstage _ hlook =>
    rw [hstage] at h
    rw [hpolicy _ hlistening]
    refine .of_unfailed ?_ rfl
    obtain ⟨id, phase⟩ := guard
    cases h.sniffing
    cases policy <;> rfl
  | use hstage | finish hstage =>
    rw [hstage] at h
    exact .of_unfailed h.phase rfl
  | refuse hstage => exact .of_unfailed rfl rfl
  | @dropGuard _ outcome _ hstage | @giveBack _ outcome _ hstage =>
    rw [hstage] at h
    cases outcome <;> exact ⟨h.phase, h.demanded⟩

theorem phased_of_run {headerTimeout : Nat} {bindings : List Config.Binding} {events : List Event}
    (h : (ofBindings headerTimeout bindings).run? events = some server)
    (hvisit : server.visits[client]? = some visit) {binding : Config.Binding}
    (hbinding : bindings[visit.listener]? = some binding) :
    Phased binding.policy visit.stage := by
  refine life_induction (p := fun _ visit _ => ∀ binding,
    bindings[visit.listener]? = some binding → Phased binding.policy visit.stage) rfl rfl ?_ ?_ h
    hvisit binding hbinding
  · exact fun _ _ _ _ _ _ _ _ _ => .of_unfailed rfl rfl
  · intro events event server visit later _ new hrun ih hturn binding hbinding
    rw [hturn.same.1] at hbinding
    exact phased_of_turn (fun _ hlistening => by rw [binding_of_run hrun hbinding hlistening])
      (ih binding hbinding) hturn

/-- A guard is in the last phase of a failure where its client was rejected. -/
theorem Phased.failed_iff (h : Phased policy visit.stage) :
    visit.stage.guard?.map Guard.phase = some .failed ↔ visit.stage.failure?.isSome = true := by
  rw [h.phase]
  fun_cases Stage.path visit.stage policy with
  | case1 | case2 | case6 => simp [Stage.failure?]
  | case3 | case4 | case5 => cases policy <;> simp [Stage.failure?, Phase.initial, servedPath]

/-! ## What a path ends with -/

variable {limit : Nat} {place : Place} {script : Stream.Script} {answers : List Stream.Answer}
  {stage : Stage} {handed : List Handover}

/-- A client is handed over when it comes to streaming, and not otherwise. -/
theorem Past.length_eq_count (h : Past limit place script answers stage handed) :
    handed.length = (stage.path place.binding.policy).count .streaming := by
  cases h with
  | waiting | refused | rejected => rfl
  | sniffing | serving | served => cases place.binding.policy <;> rfl

/-- A client is handed over with a header just where one is demanded. -/
theorem Past.isSome_header (h : Past limit place script answers stage handed) {handover : Handover}
    (hmem : handover ∈ handed) :
    handover.origin.header.isSome = place.binding.policy.isRequired := by
  have hserved : ∀ {id origin stream other},
      Served limit place script answers id origin stream other → handover = other →
      handover.origin.header.isSome = place.binding.policy.isRequired := by
    rintro id origin stream other hserved rfl
    obtain ⟨before, _, _, hcomes, _⟩ := hserved.behind
    obtain ⟨front, htakes, _⟩ := Sniff.behind_of_accepted hcomes.now
    rw [hserved.recorded]
    generalize place.binding.policy = policy, origin.header = header at htakes ⊢
    cases htakes <;> rfl
  cases h with
  | waiting | refused | sniffing | rejected => exact absurd hmem List.not_mem_nil
  | serving h => exact hserved h (List.mem_singleton.mp hmem)
  | served h => exact hserved h (List.mem_singleton.mp hmem)

/-- A client is rejected with the failure that a search of it alone comes to. -/
theorem Past.failure?_eq_some_iff (h : Past limit place script answers stage handed)
    (hjudged : stage.isJudged = true) (failure : Sniff.Failure) :
    stage.failure? = some failure ↔
      (Sniff.sniff Duplex.read limit (.ofScript script) place.binding.policy).result =
        .error failure := by
  have hserved : ∀ {id origin stream handover},
      Served limit place script answers id origin stream handover →
      (Sniff.sniff Duplex.read limit (.ofScript script) place.binding.policy).result ≠
        .error failure := by
    intro id origin stream handover hserved hresult
    obtain ⟨before, since, rfl, hcomes, _⟩ := hserved.behind
    rw [hcomes since] at hresult
    cases hresult
  cases h with
  | waiting | refused | sniffing => cases hjudged
  | serving h => exact iff_of_false nofun (hserved h)
  | served h => exact iff_of_false nofun (hserved h)
  | rejected _ hresult =>
    rw [hresult.now, Except.error.injEq]
    exact Option.some_inj

/-! ## The log -/

/-- Whether an entry is about a change of phase, made or not. -/
def isChange (entry : Log.Entry) : Bool :=
  entry.message = "Connection state" || entry.message = "Invalid connection state transition"

/-- The changes of phase that the log has of one event. -/
def changes (server next : Server) : List Log.Entry :=
  (next.log.drop server.log.length).filter isChange

/-- The changes of phase that the log has of an event about a client. -/
def changesOf (client : Nat) (server : Server) (event : Event) (next : Server) : List Log.Entry :=
  if event.client? = some client then changes server next else []

theorem changes_of_log (entries : List Log.Entry) (h : next.log = server.log ++ entries) :
    changes server next = entries.filter isChange := by
  rw [changes, h, List.drop_left]

theorem isChange_changeEntry (guard : Guard) (phase : Phase) :
    isChange (guard.changeEntry phase) = true := by
  rw [Guard.changeEntry]
  split <;> rfl

theorem changes_of_same (h : next.log = server.log) : changes server next = [] :=
  changes_of_log [] (h.trans (List.append_nil _).symm)

/-- The log only grows. -/
theorem log_of_effect (h : Effect server event next) :
    ∃ entries, next.log = server.log ++ entries := by
  cases h with
  | connect | arrive | claim | accept | more | use | giveBack | trigger | dropCoordinator | stop =>
    exact ⟨[], (List.append_nil _).symm⟩
  | failAccept | reject | finish | dropGuard | leave => exact ⟨_, rfl⟩
  | handOver => exact ⟨_, List.append_assoc _ _ _⟩

/-- An event that is about no client changes no phase. -/
theorem changes_of_unnamed (h : Effect server event next) (hevent : event.client? = none) :
    changes server next = [] := by
  cases h with
  | connect | claim | accept | trigger | dropCoordinator | stop => exact changes_of_same rfl
  | failAccept => exact changes_of_log [acceptEntry _ _] rfl
  | leave => exact changes_of_log [server.leaveEntry] rfl
  | arrive | more | reject | handOver | use | finish | dropGuard | giveBack => cases hevent

theorem changes_reject (guard : Guard) (failure : Sniff.Failure) (transport : Duplex) :
    changes server (server.reject client guard failure transport) =
      [guard.changeEntry .failed] := by
  have hlog : (server.reject client guard failure transport).log =
      server.log ++ [guard.changeEntry .failed, rejectionEntry failure] := rfl
  have hrejection : isChange (rejectionEntry failure) = false := by
    rw [rejectionEntry]
    split <;> rfl
  rw [changes_of_log _ hlog, List.filter_cons_of_pos (isChange_changeEntry _ _),
    List.filter_cons_of_neg (Bool.eq_false_iff.mp hrejection), List.filter_nil]

theorem changes_handOver {guard : Guard} (hphase : guard.phase = .initial policy)
    (origin : Connection.Origin) (stream : Replay Duplex) :
    changes server (server.handOver client guard policy origin stream) =
      changeEntries guard.id (servedPath policy) := by
  have hlog : (server.handOver client guard policy origin stream).log =
      server.log ++ (headerEntries stream origin.header ++
        (changeAll guard (phasesTo policy)).2) := List.append_assoc _ _ _
  have hheader : (headerEntries stream origin.header).filter isChange = [] := by
    cases origin.header <;> rfl
  rw [changes_of_log _ hlog, List.filter_append, hheader, List.nil_append]
  obtain ⟨id, phase⟩ := guard
  cases hphase
  cases policy <;> rfl

/-- What an event about a client adds to its path. -/
def Adds (policy : Policy) (server next : Server) (client : Nat) (visit : Visit) : Prop :=
  ∃ later, next.visits[client]? = some later ∧
    later.stage.changeEntries policy =
      visit.stage.changeEntries policy ++ changes server next

theorem adds_of_modify {change : Visit → Visit} (hvisit : server.visits[client]? = some visit)
    (hvisits : next.visits = server.visits.modify client change)
    (hadds : (change visit).stage.changeEntries policy =
      visit.stage.changeEntries policy ++ changes server next) :
    Adds policy server next client visit := by
  refine ⟨change visit, ?_, hadds⟩
  rw [hvisits, List.getElem?_modify_eq, hvisit]
  rfl

theorem adds_of_same {change : Visit → Visit} (hvisit : server.visits[client]? = some visit)
    (hvisits : next.visits = server.visits.modify client change)
    (hsame : (change visit).stage.changeEntries policy = visit.stage.changeEntries policy)
    (hchanges : changes server next = []) : Adds policy server next client visit :=
  adds_of_modify hvisit hvisits (by rw [hsame, hchanges, List.append_nil])

/-- An event that is about a client has in the log what it adds to the path of the client. -/
theorem adds_of_effect (h : Effect server event next) (hevent : event.client? = some client)
    (hvisit : server.visits[client]? = some visit)
    (hpolicy : ∀ listening, server.listeners[visit.listener]? = some listening →
      listening.binding.policy = policy)
    (hphased : Phased policy visit.stage) : Adds policy server next client visit := by
  cases h with
  | connect | claim | accept | failAccept | trigger | dropCoordinator | stop | leave => cases hevent
  | arrive =>
    cases hevent
    exact adds_of_same hvisit rfl (Stage.changeEntries_mapTransport _ _ _) (changes_of_same rfl)
  | more hsame _ hstage | use hsame hstage =>
    cases hevent
    cases hvisit.symm.trans hsame
    exact adds_of_same hvisit rfl (by rw [hstage]; rfl) (changes_of_same rfl)
  | @giveBack _ _ _ outcome _ hsame hstage =>
    cases hevent
    cases hvisit.symm.trans hsame
    refine adds_of_same hvisit rfl ?_ (changes_of_same rfl)
    rw [hstage]
    cases outcome <;> rfl
  | @dropGuard _ _ guard outcome _ hsame hstage =>
    cases hevent
    cases hvisit.symm.trans hsame
    refine adds_of_same hvisit rfl ?_ (changes_of_log [guard.closedEntry] rfl)
    rw [hstage]
    cases outcome <;> rfl
  | @finish _ ending _ _ _ _ hsame hstage =>
    cases hevent
    cases hvisit.symm.trans hsame
    have hentries : ending.entries.filter isChange = [] := by
      cases ending <;> rfl
    exact adds_of_same hvisit rfl (by rw [hstage]; rfl)
      ((changes_of_log ending.entries rfl).trans hentries)
  | @reject _ _ _ guard _ _ _ hsame hlistening hstage _ hlook =>
    cases hevent
    cases hvisit.symm.trans hsame
    rw [hstage] at hphased
    rw [hpolicy _ hlistening] at hlook
    obtain rfl := required_of_rejected hlook
    refine adds_of_modify hvisit rfl ?_
    rw [changes_reject, hstage]
    obtain ⟨id, phase⟩ := guard
    cases hphased.sniffing
    rfl
  | @handOver _ _ _ guard _ _ _ hsame hlistening hstage =>
    cases hevent
    cases hvisit.symm.trans hsame
    rw [hstage] at hphased
    rw [hpolicy _ hlistening]
    refine adds_of_modify hvisit rfl ?_
    rw [changes_handOver hphased.sniffing, hstage]
    obtain ⟨id, phase⟩ := guard
    cases hphased.sniffing
    cases policy <;> rfl

/-- Being accepted or turned away is no change of phase. -/
theorem changeEntries_of_unnamed {later : Visit} {new : List Handover}
    (hturn : Turn server client visit event later new) (hevent : event.client? ≠ some client) :
    later.stage.changeEntries policy = visit.stage.changeEntries policy := by
  cases hturn with
  | rest => rfl
  | accept _ _ hstage | refuse hstage =>
    rw [hstage]
    rfl
  | arrive | more | reject | handOver | use | finish | dropGuard | giveBack =>
    exact absurd rfl hevent

/-! ## Runs -/

/-- The entry that a guard leaves when it is asked for a change that it must not make. -/
def IsRefusal (entry : Log.Entry) : Prop := entry.message = "Invalid connection state transition"

theorem isChange_of_isRefusal {entry : Log.Entry} (h : IsRefusal entry) :
    isChange entry = true := by
  rw [isChange, h]
  decide

variable {headerTimeout : Nat} {bindings : List Config.Binding} {events : List Event}

theorem adds_of_run (hrun : (ofBindings headerTimeout bindings).run? events = some server)
    (h : Effect server event next) (hevent : event.client? = some client)
    (hvisit : server.visits[client]? = some visit) {binding : Config.Binding}
    (hbinding : bindings[visit.listener]? = some binding) :
    Adds binding.policy server next client visit := by
  exact adds_of_effect h hevent hvisit
    (fun _ hlistening => by rw [binding_of_run hrun hbinding hlistening])
    (phased_of_run hrun hvisit hbinding)

/-- No guard is asked for a change that it must not make. -/
theorem allowed_of_run (h : (ofBindings headerTimeout bindings).run? events = some server) :
    ∀ entry ∈ server.log, ¬IsRefusal entry := by
  refine run_induction (p := fun _ server => ∀ entry ∈ server.log, ¬IsRefusal entry) ?_ ?_ h
  · exact fun _ hmem => absurd hmem List.not_mem_nil
  intro events event server next hrun ih heffect entry hmem hrefusal
  obtain ⟨entries, hlog⟩ := log_of_effect heffect
  rw [hlog] at hmem
  rcases List.mem_append.mp hmem with hmem | hmem
  · exact ih entry hmem hrefusal
  · have hchange : entry ∈ changes server next := by
      rw [changes_of_log entries hlog]
      exact List.mem_filter.mpr ⟨hmem, isChange_of_isRefusal hrefusal⟩
    cases hevent : event.client? with
    | none =>
      rw [changes_of_unnamed heffect hevent] at hchange
      cases hchange
    | some client =>
      obtain ⟨visit, hvisit⟩ : ∃ visit, server.visits[client]? = some visit := by
        refine Option.ne_none_iff_exists'.mp fun hnone => ?_
        exact (absent_of_effect heffect hnone).1 hevent
      obtain ⟨binding, hbinding, _⟩ := past_of_run hrun hvisit
      -- The entry is one of those for the path of the client, which are no refusals.
      obtain ⟨later, _, hadds⟩ := adds_of_run hrun heffect hevent hvisit hbinding
      have hpath : entry ∈ later.stage.changeEntries binding.policy := by
        rw [hadds]
        exact List.mem_append_right _ hchange
      have hmessage := Stage.message_of_mem_changeEntries hpath
      rw [IsRefusal, hmessage] at hrefusal
      exact absurd hrefusal (by decide)

/-- The log has one entry for each step of the path of a client. -/
theorem changes_of_run (h : (ofBindings headerTimeout bindings).run? events = some server)
    (hvisit : server.visits[client]? = some visit) {binding : Config.Binding}
    (hbinding : bindings[visit.listener]? = some binding) :
    collect (changesOf client) (ofBindings headerTimeout bindings) events =
      visit.stage.changeEntries binding.policy := by
  refine client_induction (p := fun events visit => ∀ binding,
    bindings[visit.listener]? = some binding →
      collect (changesOf client) (ofBindings headerTimeout bindings) events =
        visit.stage.changeEntries binding.policy) rfl rfl ?_ ?_ h hvisit binding hbinding
  · intro events listener peer hevents binding _
    exact collect_eq_nil _ (fun event hmem _ _ => if_neg (hevents event hmem)) _
  · intro events event server next visit later new hrun heffect hvisit hlater hturn ih binding
      hbinding
    rw [hturn.same.1] at hbinding
    rw [collect_append _ hrun heffect, ih binding hbinding, changesOf]
    by_cases hevent : event.client? = some client
    · obtain ⟨_, hsame, hadds⟩ := adds_of_run hrun heffect hevent hvisit hbinding
      cases hlater.symm.trans hsame
      rw [if_pos hevent, hadds]
    · rw [if_neg hevent, List.append_nil, changeEntries_of_unnamed hturn hevent]

end ProxyGate.Server
