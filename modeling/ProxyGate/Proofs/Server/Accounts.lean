import ProxyGate.Proofs.Metrics
import ProxyGate.Proofs.Server.Phases
import ProxyGate.Proofs.Server.Slots

/-!
# The accounts of a server

Every metric of a server is the number of its clients that have come so far: `Accounted` says so for
one moment, and `accounted_of_effect` that no event upsets it.  With the path of each client,
`lifecycle_accounted` says what is known of the life of all connections.
-/

namespace ProxyGate.Server

open Connection (Guard Phase)
open ProxyGate.Stream (Duplex)

/-! ## What is counted -/

/-- The policy of the listener that a client came to. -/
def Visit.policy? (bindings : List Config.Binding) (visit : Visit) : Option Policy :=
  bindings[visit.listener]?.map (·.policy)

/-- The label of the failure of a client. -/
def Stage.label? (stage : Stage) : Option String := stage.failure?.map Sniff.Failure.label

/-- Whether a client was accepted under a policy. -/
def Visit.isAccepted (bindings : List Config.Binding) (policy : Policy) (visit : Visit) : Bool :=
  visit.policy? bindings = some policy && visit.stage.guard?.isSome

/-- Whether the search for a header that a client must open with has ended. -/
def Visit.isSearched (bindings : List Config.Binding) (visit : Visit) : Bool :=
  visit.policy? bindings = some .required && visit.stage.isJudged

/-- The clients that were accepted under a policy. -/
def accepted (bindings : List Config.Binding) (server : Server) (policy : Policy) : Nat :=
  server.visits.countP (·.isAccepted bindings policy)

/-- The clients whose search for a header has ended. -/
def searched (bindings : List Config.Binding) (server : Server) : Nat :=
  server.visits.countP (·.isSearched bindings)

/-- The clients that were rejected with a failure of some label. -/
def failed (server : Server) (label : String) : Nat :=
  server.visits.countP (·.stage.label? = some label)

/-- The metrics are the numbers of clients that they stand for. -/
structure Accounted (bindings : List Config.Binding) (server : Server) : Prop where
  accepted : ∀ policy, server.metrics.accepted policy = server.accepted bindings policy
  searched : server.metrics.searches = server.searched bindings
  failed : ∀ label, server.metrics.failures.count label = server.failed label

variable {bindings : List Config.Binding} {server next : Server} {event : Event}

/-! ## One event -/

/-- What a client counts for in the metrics. -/
def Visit.account (visit : Visit) : Nat × Bool × Bool × Option String :=
  (visit.listener, visit.stage.guard?.isSome, visit.stage.isJudged, visit.stage.label?)

/-- Only what clients count for is counted. -/
theorem counts_of_account
    (h : next.visits.map Visit.account = server.visits.map Visit.account) :
    next.accepted bindings = server.accepted bindings ∧
      next.searched bindings = server.searched bindings ∧ next.failed = server.failed := by
  have haccepted : ∀ (server : Server) policy, server.accepted bindings policy =
      (server.visits.map Visit.account).countP fun account =>
        bindings[account.1]?.map (·.policy) = some policy && account.2.1 :=
    fun _ _ => by rw [List.countP_map]; rfl
  have hsearched : ∀ server : Server, server.searched bindings =
      (server.visits.map Visit.account).countP fun account =>
        bindings[account.1]?.map (·.policy) = some .required && account.2.2.1 :=
    fun _ => by rw [List.countP_map]; rfl
  have hfailed : ∀ (server : Server) label, server.failed label =
      (server.visits.map Visit.account).countP fun account => account.2.2.2 = some label :=
    fun _ _ => by rw [List.countP_map]; rfl
  exact ⟨funext fun policy => by rw [haccepted, haccepted, h], by rw [hsearched, hsearched, h],
    funext fun label => by rw [hfailed, hfailed, h]⟩

/-- An event for which no client counts in another way keeps the accounts. -/
theorem Accounted.of_account (h : Accounted bindings server)
    (haccount : next.visits.map Visit.account = server.visits.map Visit.account)
    (haccepted : next.metrics.accepted = server.metrics.accepted)
    (hsearches : next.metrics.searches = server.metrics.searches)
    (hfailures : next.metrics.failures = server.metrics.failures) : Accounted bindings next := by
  obtain ⟨hacceptedSame, hsearchedSame, hfailedSame⟩ := counts_of_account haccount
  refine ⟨fun policy => ?_, ?_, fun label => ?_⟩
  · rw [haccepted, hacceptedSame, h.accepted]
  · rw [hsearches, hsearchedSame, h.searched]
  · rw [hfailures, hfailedSame, h.failed]

theorem account_of_modify {client : Nat} {visit : Visit} {change : Visit → Visit}
    (hvisit : server.visits[client]? = some visit) (h : (change visit).account = visit.account) :
    (server.visits.modify client change).map Visit.account = server.visits.map Visit.account := by
  refine map_modify_of_same fun other hother => ?_
  rw [hvisit, Option.some.injEq] at hother
  rwa [← hother]

theorem account_turnAway (server : Server) (listener : Nat) :
    (server.turnAway listener).visits.map Visit.account = server.visits.map Visit.account := by
  rw [turnAway, List.map_map]
  refine List.map_congr_left fun visit _ => ?_
  rw [Function.comp_apply]
  split
  · rename_i hwaits
    obtain ⟨transport, hstage⟩ := Stage.isWaiting_iff.mp hwaits.2
    rw [Visit.account, Visit.account, Stage.label?, Stage.label?, hstage]
    rfl
  · rfl

/-- A client that comes counts for nothing yet. -/
theorem Accounted.of_connect (h : Accounted bindings server) {listener : Nat}
    {peer : Address.Socket} (hvisits : next.visits = server.visits ++ [.start listener peer])
    (hmetrics : next.metrics = server.metrics) : Accounted bindings next := by
  refine ⟨fun policy => ?_, ?_, fun label => ?_⟩
  · rw [hmetrics, h.accepted]
    simp [Server.accepted, hvisits, Visit.isAccepted, Visit.start, Stage.guard?]
  · rw [hmetrics, h.searched]
    simp [Server.searched, hvisits, Visit.isSearched, Visit.start, Stage.isJudged]
  · rw [hmetrics, h.failed]
    simp [Server.failed, hvisits, Stage.label?, Visit.start, Stage.failure?]

/-- An event that brings one client to another stage keeps the accounts when the metrics follow. -/
theorem Accounted.of_setStage (h : Accounted bindings server) {client : Nat} {visit : Visit}
    {stage : Stage} {policy : Policy} (hvisit : server.visits[client]? = some visit)
    (hpolicy : visit.policy? bindings = some policy)
    (hvisits : next.visits = (server.setStage client stage).visits)
    (haccepted : ∀ other,
      next.metrics.accepted other + (policy = other && visit.stage.guard?.isSome).toNat =
        server.metrics.accepted other + (policy = other && stage.guard?.isSome).toNat)
    (hsearches : next.metrics.searches + (policy = .required && visit.stage.isJudged).toNat =
      server.metrics.searches + (policy = .required && stage.isJudged).toNat)
    (hfailures : ∀ label,
      next.metrics.failures.count label + (decide (visit.stage.label? = some label)).toNat =
        server.metrics.failures.count label + (decide (stage.label? = some label)).toNat) :
    Accounted bindings next := by
  have hcount : ∀ p : Visit → Bool, next.visits.countP p + (p visit).toNat =
      server.visits.countP p + (p { visit with stage }).toNat := by
    intro p
    rw [hvisits]
    exact countP_modify hvisit _
  have hsame : Visit.policy? bindings { visit with stage } = some policy := hpolicy
  refine ⟨fun other => ?_, ?_, fun label => ?_⟩
  · have hclients := hcount (·.isAccepted bindings other)
    simp only [Visit.isAccepted, hpolicy, hsame, Option.some.injEq] at hclients
    have hmetrics := haccepted other
    rw [h.accepted other] at hmetrics
    exact Nat.add_right_cancel (hmetrics.trans hclients.symm)
  · have hclients := hcount (·.isSearched bindings)
    simp only [Visit.isSearched, hpolicy, hsame, Option.some.injEq] at hclients
    rw [h.searched] at hsearches
    exact Nat.add_right_cancel (hsearches.trans hclients.symm)
  · have hmetrics := hfailures label
    rw [h.failed label] at hmetrics
    exact Nat.add_right_cancel (hmetrics.trans (hcount (·.stage.label? = some label)).symm)

/-- The policy of a client's listener is that of its binding. -/
theorem policy?_of_listening (hbindings : server.listeners.map (·.binding) = bindings)
    {visit : Visit} {listening : Listening}
    (hlistening : server.listeners[visit.listener]? = some listening) :
    visit.policy? bindings = some listening.binding.policy := by
  rw [Visit.policy?, ← hbindings, List.getElem?_map, hlistening]
  rfl

/-- No event upsets the accounts. -/
theorem accounted_of_effect (hbindings : server.listeners.map (·.binding) = bindings)
    (h : Accounted bindings server) (heffect : Effect server event next) :
    Accounted bindings next := by
  cases heffect with
  | claim | failAccept | trigger | dropCoordinator | leave => exact h.of_account rfl rfl rfl rfl
  | connect => exact h.of_connect rfl rfl
  | stop => exact h.of_account (account_turnAway _ _) rfl rfl rfl
  | @arrive _ _ visit hvisit =>
    refine h.of_account (account_of_modify hvisit ?_) rfl rfl rfl
    simp [Visit.account, Stage.label?]
  | more hvisit _ hstage | use hvisit hstage =>
    refine h.of_account (account_of_modify hvisit ?_) rfl rfl rfl
    simp only [Visit.account, Stage.label?, hstage]
    rfl
  | finish hvisit hstage =>
    refine h.of_account (account_of_modify hvisit ?_) rfl rfl rfl
    simp only [Visit.account, Stage.label?, hstage]
    rfl
  | @dropGuard _ _ _ outcome _ hvisit hstage | @giveBack _ _ _ outcome _ hvisit hstage =>
    refine h.of_account (account_of_modify hvisit ?_) rfl rfl rfl
    simp only [Visit.account, Stage.label?, hstage]
    cases outcome <;> rfl
  | @accept _ _ _ _ _ _ hlistening hfirst hvisit hstage =>
    have hlistener := listener_of_firstWaiting? hfirst hvisit
    subst hlistener
    have hpolicy := policy?_of_listening hbindings hlistening
    refine h.of_setStage hvisit hpolicy rfl (fun other => ?_) ?_ fun label => ?_
    · rw [hstage]
      simp [Stage.guard?, welcome]
    · rw [hstage]
      simp [Stage.isJudged, welcome]
    · rw [hstage]
      simp [Stage.label?, Stage.failure?, welcome]
  | reject hvisit hlistening hstage _ hlook =>
    have hpolicy := policy?_of_listening hbindings hlistening
    rw [required_of_rejected hlook] at hpolicy
    refine h.of_setStage hvisit hpolicy rfl (fun other => ?_) ?_ fun label => ?_
    · rw [hstage]
      rfl
    · rw [hstage]
      rfl
    · rw [hstage]
      simp [Stage.label?, Stage.failure?, Server.reject, Metrics.searched, List.count_singleton,
        Bool.toNat, Bool.cond_decide]
  | @handOver _ _ listening _ _ _ _ hvisit hlistening hstage =>
    have hpolicy := policy?_of_listening hbindings hlistening
    obtain ⟨haccepted, hsearches, hfailures⟩ :=
      server.metrics.searched_of_required listening.binding.policy
    refine h.of_setStage hvisit hpolicy rfl (fun other => ?_) ?_ fun label => ?_
    · rw [hstage]
      exact congrArg (· + _) (congrFun haccepted other)
    · rw [hstage]
      simpa [Stage.isJudged, Server.handOver] using hsearches
    · rw [hstage]
      exact congrArg (List.count label) hfailures

/-- The accounts are right in every run. -/
theorem accounted_of_run {headerTimeout : Nat} {events : List Event}
    (h : (ofBindings headerTimeout bindings).run? events = some server) :
    Accounted bindings server := by
  refine run_induction (p := fun _ server => Accounted bindings server) ?_ ?_ h
  · refine ⟨fun policy => ?_, rfl, fun _ => rfl⟩
    cases policy <;> rfl
  · intro events event server next hrun ih heffect
    exact accounted_of_effect (settings_of_run_ofBindings hrun).2 ih heffect

/-! ## All clients -/

variable {headerTimeout : Nat} {events : List Event}

/-- The metrics and the server keep the same count of what is open. -/
theorem active_of_run (h : (ofBindings headerTimeout bindings).run? events = some server) :
    server.metrics.active = server.active := by
  refine run_induction (p := fun _ server => server.metrics.active = server.active) rfl ?_ h
  intro events event server next _ ih heffect
  cases heffect with
  | connect | arrive | claim | failAccept | more | reject | use | giveBack | trigger
  | dropCoordinator | stop | leave | finish => exact ih
  | @accept _ _ listening =>
    refine Eq.trans ?_ (congrArg (· + 1) ih)
    rw [welcome]
    cases listening.binding.policy <;> rfl
  | dropGuard => exact congrArg (· - 1) ih
  | @handOver _ _ listening =>
    refine Eq.trans ?_ ih
    rw [handOver]
    cases listening.binding.policy <;> rfl

/-- Every client is at one of the listeners. -/
theorem policy?_of_run (h : (ofBindings headerTimeout bindings).run? events = some server)
    {visit : Visit} (hmem : visit ∈ server.visits) :
    ∃ policy, visit.policy? bindings = some policy := by
  obtain ⟨client, hvisit⟩ := List.mem_iff_getElem?.mp hmem
  obtain ⟨binding, hbinding, _⟩ := past_of_run h hvisit
  exact ⟨binding.policy, by rw [Visit.policy?, hbinding]; rfl⟩

theorem Stage.isSome_guard?_of_isGuarded {stage : Stage} (h : stage.isGuarded = true) :
    stage.guard?.isSome = true := by
  revert h
  fun_cases isGuarded stage <;> simp [guard?]

/-- Nothing is open where nothing was accepted. -/
theorem active_eq_zero_of_run (h : (ofBindings headerTimeout bindings).run? events = some server)
    (hnone : server.metrics.required + server.metrics.disabled = 0) :
    server.metrics.active = 0 := by
  have haccounted := accounted_of_run h
  have hzero : ∀ policy, server.accepted bindings policy = 0 := by
    intro policy
    rw [← haccounted.accepted]
    cases policy
    · exact (Nat.add_eq_zero_iff.mp hnone).2
    · exact (Nat.add_eq_zero_iff.mp hnone).1
  rw [active_of_run h, (balanced_of_run h).active, guarded, List.countP_eq_zero]
  intro visit hmem hguarded
  obtain ⟨policy, hpolicy⟩ := policy?_of_run h hmem
  refine List.countP_eq_zero.mp (hzero policy) visit hmem ?_
  rw [Visit.isAccepted, hpolicy, Stage.isSome_guard?_of_isGuarded hguarded]
  simp

/-- Every client that was rejected has left its label. -/
theorem Accounted.length_failures (h : Accounted bindings server) :
    server.metrics.failures.length =
      server.visits.countP fun visit => visit.stage.failure?.isSome := by
  have hperm : server.metrics.failures.Perm (server.visits.filterMap (·.stage.label?)) := by
    refine List.perm_iff_count.mpr fun label => ?_
    rw [h.failed label, List.count_filterMap]
    exact List.countP_congr fun visit _ => by simp
  rw [hperm.length_eq, List.length_filterMap_eq_countP]
  exact List.countP_congr fun visit _ => by rw [Stage.label?, Option.isSome_map]

/-- **The life of every connection is accounted for.**  After every run of a server:

* No guard was asked for a change of phase that it must not make.
* What the log has of a client is one entry for each step of its path, with the number of its guard,
  which are steps that a guard may make, and its guard is in the last phase of it.  The client was handed over when it came to
  streaming, with a header just where one is demanded; and it failed just where a search of what it
  has sent fails.
* The metrics are, under each name: the clients that were accepted under a policy; those whose
  search for a header has ended; those whose failure has a label, which are together those that are
  in the phase of a failure; and those that have a guard. -/
theorem lifecycle_accounted (h : (ofBindings headerTimeout bindings).run? events = some server) :
    (∀ entry ∈ server.log, ¬IsRefusal entry) ∧
    (∀ client visit, server.visits[client]? = some visit →
      ∃ binding, bindings[visit.listener]? = some binding ∧
        let path := visit.stage.path binding.policy
        collect (changesOf client) (ofBindings headerTimeout bindings) events =
          visit.stage.guard?.elim [] (fun guard => changeEntries guard.id path) ∧
        path.IsChain (fun first second => first.canBecome second = true) ∧
        visit.stage.guard?.map Guard.phase = path.getLast? ∧
        (server.handedOver client).length = path.count .streaming ∧
        (∀ handover ∈ server.handedOver client,
          handover.origin.header.isSome = binding.policy.isRequired) ∧
        (visit.stage.isJudged = true → ∀ failure, visit.stage.failure? = some failure ↔
          (Sniff.sniff Duplex.read headerTimeout (.ofScript (arrivals client events))
            binding.policy).result = .error failure)) ∧
    (∀ policy, server.metrics.value (Metrics.connectionsName policy) =
      server.accepted bindings policy) ∧
    server.metrics.value Metrics.searchesName = server.searched bindings ∧
    (∀ label, server.metrics.value (Metrics.failuresName label) = server.failed label) ∧
    (server.metrics.failureSamples.map Prod.snd).sum =
      server.visits.countP (·.stage.guard?.map Guard.phase = some .failed) ∧
    server.metrics.value Metrics.activeName = server.active ∧ server.active = server.guarded := by
  have haccounted := accounted_of_run h
  refine ⟨allowed_of_run h, fun client visit hvisit => ?_, fun policy => ?_, ?_, fun label => ?_,
    ?_, ?_, (balanced_of_run h).active⟩
  · obtain ⟨binding, hbinding, hpast⟩ := past_of_run h hvisit
    exact ⟨binding, hbinding, changes_of_run h hvisit hbinding, visit.stage.isChain_path _,
      (phased_of_run h hvisit hbinding).phase, hpast.length_eq_count,
      fun _ hmem => hpast.isSome_header hmem, hpast.failure?_eq_some_iff⟩
  · rw [Metrics.value_connectionsName, haccounted.accepted]
  · rw [Metrics.value_searchesName, haccounted.searched]
  · rw [Metrics.value_failuresName, haccounted.failed]
  · rw [Metrics.sum_failureSamples, haccounted.length_failures]
    refine List.countP_congr fun visit hmem => ?_
    obtain ⟨client, hvisit⟩ := List.mem_iff_getElem?.mp hmem
    obtain ⟨binding, hbinding, _⟩ := past_of_run h hvisit
    rw [decide_eq_true_eq, (phased_of_run h hvisit hbinding).failed_iff]
  · rw [Metrics.value_activeName _ (active_eq_zero_of_run h), active_of_run h]

/-- Of two clients one crashed its handler and one was rejected, and a third was never accepted. -/
theorem lifecycle_accounted_crowded :
    ∃ server, (ofBindings 5000 twoListeners).run? crowded = some server ∧
      collect (changesOf 0) (ofBindings 5000 twoListeners) crowded =
        changeEntries 1 [.unchecked, .streaming] ∧
      (server.handedOver 0).length = 1 ∧
      server.metrics.value (Metrics.connectionsName .required) = 1 ∧
      server.metrics.value Metrics.searchesName = 1 ∧
      server.metrics.value (Metrics.failuresName "bad_signature") = 1 ∧
      (server.metrics.failureSamples.map Prod.snd).sum = 1 ∧
      server.metrics.value Metrics.activeName = 0 := by
  obtain ⟨server, hrun⟩ :
      ∃ server, (ofBindings 5000 twoListeners).run? crowded = some server := ⟨_, rfl⟩
  have hvisit : ((ofBindings 5000 twoListeners).run? crowded).bind (·.visits[0]?) =
      some crashed := rfl
  have hcounts : ((ofBindings 5000 twoListeners).run? crowded).map (fun server =>
      (server.accepted twoListeners .required, server.searched twoListeners,
        server.failed "bad_signature", server.active)) = some (1, 1, 1, 0) := by
    decide
  have hphases : ((ofBindings 5000 twoListeners).run? crowded).map (fun server =>
      server.visits.countP (·.stage.guard?.map Guard.phase = some .failed)) = some 1 := by
    decide
  rw [hrun] at hvisit hcounts hphases
  simp only [Option.map_some, Option.some.injEq, Prod.mk.injEq] at hcounts hphases
  obtain ⟨haccepted, hsearched, hfailed, hactive⟩ := hcounts
  obtain ⟨_, hclients, hconnections, hsearches, hfailures, hsum, hgauge, _⟩ :=
    lifecycle_accounted hrun
  obtain ⟨_, hbinding, hchanges, _, _, hhanded, _⟩ := hclients 0 crashed hvisit
  cases hbinding
  exact ⟨server, hrun, hchanges, hhanded, (hconnections .required).trans haccepted,
    hsearches.trans hsearched, (hfailures _).trans hfailed, hsum.trans hphases,
    hgauge.trans hactive⟩

end ProxyGate.Server
