import ProxyGate.Command.Launch
import ProxyGate.Proofs.Config.BindAddress
import ProxyGate.Proofs.Config.Problems
import ProxyGate.Server.State
import Mathlib.Data.List.Forall2

/-!
# What passes validation starts

Two loops go over the listeners of a configuration: the list of problems collects everything that is
wrong, and the start of a server stops at the first listener that it cannot open.

* `Stops` says which problem stands for which fault of a start, and `bindings_eq_error_iff` that the
  two loops agree as far as the configuration decides.
* `StartedOn` is all that a start on a host can come to, whatever the host answers.
* `startOn_agrees_with_validate` puts the two together, and says what a configuration without
  problems has.
-/

namespace ProxyGate

namespace Server

/-- The fault of a start for a problem of its configuration. -/
inductive Stops (listeners : List Config.Listener) : Config.Problem → StartFault → Prop where
  | address (index : Nat) (fault : BindAddress.Fault) :
      Stops listeners (.badAddress index fault) (.badAddress index fault)
  | limit {index : Nat} {listener : Config.Listener} {binding : Config.Binding}
      (at_index : listeners[index]? = some listener) (resolves : listener.resolve = .ok binding) :
      Stops listeners (.tooManyConnections index)
        (.badListener binding.address (.limit listener.maxConnections))

theorem Stops.unique {listeners : List Config.Listener} {problem : Config.Problem}
    {fault fault' : StartFault} (h : Stops listeners problem fault)
    (h' : Stops listeners problem fault') : fault = fault' := by
  cases h with
  | address => cases h'; rfl
  | limit hlistener hresolve =>
    cases h' with
    | limit hlistener' hresolve' =>
      rw [hlistener, Option.some.injEq] at hlistener'
      subst hlistener'
      rw [hresolve, Except.ok.injEq] at hresolve'
      rw [hresolve']

/-! ## One listener -/

theorem openListener_eq_ok_iff {index : Nat} {listener : Config.Listener}
    {binding : Config.Binding} :
    openListener index listener = .ok binding ↔
      listener.resolve = .ok binding ∧ listener.maxConnections ≤ Config.slotLimit := by
  rw [openListener]
  cases hresolve : listener.resolve with
  | error fault => simp
  | ok found =>
    obtain ⟨bind, _, rfl⟩ := Config.Listener.resolve_eq_ok_iff.mp hresolve
    dsimp only [Listener.checkLimit]
    by_cases hlimit : Config.slotLimit < listener.maxConnections
    · rw [if_pos hlimit]
      simp [hlimit]
    · rw [if_neg hlimit]
      simp
      omega

/-- A listener that is not opened has a fatal problem, and its first one says so. -/
theorem stops_of_openListener_eq_error {listeners : List Config.Listener} {index : Nat}
    {listener : Config.Listener} {fault : StartFault} (hindex : listeners[index]? = some listener)
    (h : openListener index listener = .error fault) (seen : List Address.Socket) :
    ∃ problem, ((Config.addressProblems seen index listener).1 ++
        Config.limitProblems index listener).find? Config.Problem.isFatal = some problem ∧
      Stops listeners problem fault := by
  rw [List.find?_append, Config.find?_addressProblems, Config.find?_limitProblems]
  rw [openListener] at h
  cases hresolve : listener.resolve with
  | error reason =>
    rw [hresolve] at h
    cases h
    exact ⟨_, rfl, .address index reason⟩
  | ok binding =>
    obtain ⟨bind, _, rfl⟩ := Config.Listener.resolve_eq_ok_iff.mp hresolve
    rw [hresolve] at h
    dsimp only [Listener.checkLimit] at h
    by_cases hlimit : Config.slotLimit < listener.maxConnections
    · rw [if_pos hlimit] at h ⊢
      cases h
      exact ⟨_, rfl, .limit hindex hresolve⟩
    · rw [if_neg hlimit] at h
      cases h

theorem find?_eq_none_of_openListener_eq_ok {index : Nat} {listener : Config.Listener}
    {binding : Config.Binding} (h : openListener index listener = .ok binding)
    (seen : List Address.Socket) :
    ((Config.addressProblems seen index listener).1 ++
      Config.limitProblems index listener).find? Config.Problem.isFatal = none := by
  obtain ⟨hresolve, hlimit⟩ := openListener_eq_ok_iff.mp h
  rw [List.find?_append, Config.find?_addressProblems, Config.find?_limitProblems, hresolve,
    if_neg (Nat.not_lt.mpr hlimit)]
  rfl

/-! ## All listeners -/

/-- A listener comes to a binding that can be opened. -/
def Binds (listener : Config.Listener) (binding : Config.Binding) : Prop :=
  listener.resolve = .ok binding ∧ listener.maxConnections ≤ Config.slotLimit

/-- Listeners that are all opened have no fatal problem. -/
theorem openFrom_eq_ok {index : Nat} {listeners : List Config.Listener}
    {bindings : List Config.Binding} (h : openFrom index listeners = .ok bindings)
    (seen : List Address.Socket) :
    List.Forall₂ Binds listeners bindings ∧
      (Config.listenerProblems seen index listeners).find? Config.Problem.isFatal = none := by
  induction listeners generalizing index bindings seen with
  | nil =>
    cases h
    exact ⟨.nil, rfl⟩
  | cons listener rest ih =>
    rw [openFrom] at h
    cases hopen : openListener index listener with
    | error fault =>
      rw [hopen] at h
      cases h
    | ok binding =>
      cases hrest : openFrom (index + 1) rest with
      | error fault =>
        rw [hopen, hrest] at h
        cases h
      | ok others =>
        rw [hopen, hrest] at h
        cases h
        obtain ⟨hothers, hnone⟩ := ih hrest (Config.addressProblems seen index listener).2
        refine ⟨.cons (openListener_eq_ok_iff.mp hopen) hothers, ?_⟩
        rw [Config.listenerProblems_cons, List.find?_append, hnone,
          find?_eq_none_of_openListener_eq_ok hopen]
        rfl

/-- The first listener that is not opened has the first fatal problem. -/
theorem stops_of_openFrom_eq_error {listeners rest : List Config.Listener} {index : Nat}
    {fault : StartFault} (hdrop : listeners.drop index = rest)
    (h : openFrom index rest = .error fault) (seen : List Address.Socket) :
    ∃ problem, (Config.listenerProblems seen index rest).find? Config.Problem.isFatal =
        some problem ∧ Stops listeners problem fault := by
  -- `rest` is what is left of all listeners, which is where the index of a problem points.
  induction rest generalizing index seen with
  | nil => cases h
  | cons listener rest ih =>
    have hindex : listeners[index]? = some listener := by
      rw [← List.head?_drop, hdrop]
      rfl
    have hnext : listeners.drop (index + 1) = rest := by
      rw [← List.tail_drop, hdrop]
      rfl
    rw [openFrom] at h
    rw [Config.listenerProblems_cons, List.find?_append]
    cases hopen : openListener index listener with
    | error found =>
      rw [hopen] at h
      cases h
      obtain ⟨problem, hproblem, hstops⟩ := stops_of_openListener_eq_error hindex hopen seen
      exact ⟨problem, by rw [hproblem, Option.some_or], hstops⟩
    | ok binding =>
      rw [find?_eq_none_of_openListener_eq_ok hopen, Option.none_or]
      cases hrest : openFrom (index + 1) rest with
      | error found =>
        rw [hopen, hrest] at h
        cases h
        exact ih hnext hrest _
      | ok others =>
        rw [hopen, hrest] at h
        cases h

/-- What keeps a configuration from starting is its first fatal problem. -/
theorem stops_of_bindings_eq_error {config : Config} {fault : StartFault}
    (h : bindings config = .error fault) :
    ∃ problem, config.problems.find? Config.Problem.isFatal = some problem ∧
      Stops config.listeners problem fault := by
  rw [Config.find?_problems]
  exact stops_of_openFrom_eq_error rfl h []

theorem exists_bindings_eq_error {config : Config} {problem : Config.Problem}
    (h : config.problems.find? Config.Problem.isFatal = some problem) :
    ∃ fault, bindings config = .error fault := by
  rw [Config.find?_problems] at h
  cases hbindings : bindings config with
  | ok opened =>
    rw [(openFrom_eq_ok hbindings []).2] at h
    cases h
  | error fault => exact ⟨fault, rfl⟩

/-- As far as a configuration decides, a start fails exactly for its first fatal problem. -/
theorem bindings_eq_error_iff {config : Config} {fault : StartFault} :
    bindings config = .error fault ↔
      ∃ problem, config.problems.find? Config.Problem.isFatal = some problem ∧
        Stops config.listeners problem fault := by
  refine ⟨stops_of_bindings_eq_error, ?_⟩
  rintro ⟨problem, hproblem, hstops⟩
  obtain ⟨found, hfound⟩ := exists_bindings_eq_error hproblem
  obtain ⟨first, hfirst, hstops'⟩ := stops_of_bindings_eq_error hfound
  rw [hproblem, Option.some.injEq] at hfirst
  subst hfirst
  rw [hfound, hstops.unique hstops']

/-! ## Hosts -/

section Host

variable {σ α : Type} {ask : Config.Binding → StateM σ (Except String α)}

/-- A host answers a request in this way, in some of its states. -/
def Answers (ask : Config.Binding → StateM σ (Except String α)) (binding : Config.Binding)
    (answer : Except String α) : Prop :=
  ∃ state, ((ask binding).run state).1 = answer

/-- What opening listeners on a host comes to. -/
inductive OpenedOn (ask : Config.Binding → StateM σ (Except String α)) :
    Except StartFault (List Config.Binding) → Except OpenFault (List α) → Prop where
  /-- The configuration is refused. -/
  | start (fault : StartFault) : OpenedOn ask (.error fault) (.error (.start fault))
  /-- The host refuses a listener. -/
  | host {decided : Except StartFault (List Config.Binding)} {binding : Config.Binding}
      {reason : String} (h : Answers ask binding (.error reason)) :
      OpenedOn ask decided (.error (.host binding.address reason))
  /-- The host opens every listener. -/
  | opened {bindings : List Config.Binding} {opened : List α}
      (h : List.Forall₂ (fun binding listener => Answers ask binding (.ok listener)) bindings
        opened) :
      OpenedOn ask (.ok bindings) (.ok opened)

/-- One listener is opened, and then the others are, in the state that the host is in then. -/
theorem run_openOnFrom_cons (index : Nat) (listener : Config.Listener)
    (rest : List Config.Listener) (state : σ) :
    (openOnFrom ask index (listener :: rest)).run state =
      match openListener index listener with
      | .error fault => (.error (.start fault), state)
      | .ok binding =>
        match (ask binding).run state with
        | (.error reason, later) => (.error (.host binding.address reason), later)
        | (.ok opened, later) =>
          let others := (openOnFrom ask (index + 1) rest).run later
          (others.1.map (opened :: ·), others.2) := by
  rw [openOnFrom]
  cases openListener index listener with
  | error fault => rfl
  | ok binding =>
    dsimp only
    rw [StateT.run_bind]
    rcases (ask binding).run state with ⟨_ | opened, later⟩
    · rfl
    · rfl

/-- A host opens all listeners, refuses one of them, or is not asked for one that the configuration
refuses. -/
theorem openedOn_openOnFrom (index : Nat) (listeners : List Config.Listener) (state : σ) :
    OpenedOn ask (openFrom index listeners) ((openOnFrom ask index listeners).run state).1 := by
  -- Each listener is asked for in the state that the host was left in by the one before.
  induction listeners generalizing index state with
  | nil => exact .opened .nil
  | cons listener rest ih =>
    rw [run_openOnFrom_cons, openFrom]
    cases hopen : openListener index listener with
    | error fault => exact .start fault
    | ok binding =>
      dsimp only
      cases hask : (ask binding).run state with
      | mk answer later =>
        have hanswer : Answers ask binding answer := ⟨state, by rw [hask]⟩
        cases answer with
        | error reason => exact .host hanswer
        | ok opened =>
          dsimp only
          have hrest := ih (index + 1) later
          generalize openFrom (index + 1) rest = decided at hrest ⊢
          generalize ((openOnFrom ask (index + 1) rest).run later).1 = result at hrest ⊢
          cases hrest with
          | start fault => exact .start fault
          | host h => exact .host h
          | opened h => exact .opened (.cons hanswer h)

end Host

section Places

variable {σ : Type} {place : Address.Socket → StateM σ (Except String Address.Socket)}

/-- A host answers for an address in this way, in some of its states. -/
def AnswersFor (place : Address.Socket → StateM σ (Except String Address.Socket))
    (address : Address.Socket) (answer : Except String Address.Socket) : Prop :=
  ∃ state, ((place address).run state).1 = answer

theorem answers_placeOn_iff {binding : Config.Binding} {answer : Except String Config.Binding} :
    Answers (placeOn place) binding answer ↔
      ∃ given, AnswersFor place binding.address given ∧
        answer = given.map fun address => { binding with address } := by
  constructor
  · rintro ⟨state, rfl⟩
    exact ⟨_, ⟨state, rfl⟩, rfl⟩
  · rintro ⟨_, ⟨state, rfl⟩, rfl⟩
    exact ⟨state, rfl⟩

/-- What starting a server on a host comes to. -/
inductive StartedOn (place : Address.Socket → StateM σ (Except String Address.Socket))
    (config : Config) : Except OpenFault Server → Prop where
  /-- The configuration is refused. -/
  | start {fault : StartFault} (h : bindings config = .error fault) :
      StartedOn place config (.error (.start fault))
  /-- The host refuses an address. -/
  | host {address : Address.Socket} {reason : String}
      (h : AnswersFor place address (.error reason)) :
      StartedOn place config (.error (.host address reason))
  /-- The host has placed every listener. -/
  | started {found placed : List Config.Binding} (h : bindings config = .ok found)
      (hplaced : List.Forall₂ (fun binding there => ∃ address, there = { binding with address })
        found placed) :
      StartedOn place config (.ok (ofBindings config.headerTimeout placed))

theorem startedOn_startOn (place : Address.Socket → StateM σ (Except String Address.Socket))
    (host : σ) (config : Config) :
    StartedOn place config ((startOn place config).run host).1 := by
  have hopened : OpenedOn (placeOn place) (openFrom 0 config.listeners)
      ((openOnFrom (placeOn place) 0 config.listeners).run host).1 :=
    openedOn_openOnFrom 0 config.listeners host
  have hstart : ((startOn place config).run host).1 =
      ((openOnFrom (placeOn place) 0 config.listeners).run host).1.map
        (ofBindings config.headerTimeout) := rfl
  rw [hstart]
  generalize hdecided : openFrom 0 config.listeners = decided at hopened
  generalize ((openOnFrom (placeOn place) 0 config.listeners).run host).1 = result at hopened ⊢
  cases hopened with
  | start fault => exact .start hdecided
  | host h =>
    obtain ⟨given, hgiven, heq⟩ := answers_placeOn_iff.mp h
    cases given with
    | error reason =>
      cases heq
      exact .host hgiven
    | ok address => cases heq
  | opened h =>
    refine .started hdecided (h.imp fun binding there hthere => ?_)
    obtain ⟨given, _, heq⟩ := answers_placeOn_iff.mp hthere
    cases given with
    | error reason => cases heq
    | ok address =>
      cases heq
      exact ⟨address, rfl⟩

end Places

/-! ## The agreement -/

/-- A listener and what a host makes of it. -/
def Houses (listener : Config.Listener) (there : Config.Binding) : Prop :=
  ∃ binding address, Binds listener binding ∧ there = { binding with address }

theorem forall₂_houses {listeners : List Config.Listener} {found placed : List Config.Binding}
    (hfound : List.Forall₂ Binds listeners found)
    (hplaced : List.Forall₂ (fun binding there => ∃ address, there = { binding with address }) found
      placed) :
    List.Forall₂ Houses listeners placed := by
  induction hfound generalizing placed with
  | nil =>
    cases hplaced
    exact .nil
  | cons hbinds _ ih =>
    cases hplaced with
    | cons hthere hrest =>
      obtain ⟨address, rfl⟩ := hthere
      exact .cons ⟨_, address, hbinds, rfl⟩ (ih hrest)

section Accepting

variable {σ : Type} {place : Address.Socket → StateM σ (Except String Address.Socket)}
  {config : Config}

/-- A host that accepts every address is never the reason for a fault. -/
theorem StartedOn.start_of_accepts {fault : OpenFault}
    (h : StartedOn place config (.error fault))
    (haccepts : ∀ address state, ∃ there, ((place address).run state).1 = .ok there) :
    ∃ stop, fault = .start stop ∧ bindings config = .error stop := by
  cases h with
  | start h => exact ⟨_, rfl, h⟩
  | @host address _ h =>
    obtain ⟨state, hrefused⟩ := h
    obtain ⟨there, haccepted⟩ := haccepts address state
    rw [haccepted] at hrefused
    cases hrefused

/-- On a host that accepts every address the configuration decides whether a start fails. -/
theorem StartedOn.exists_error_iff {result : Except OpenFault Server}
    (h : StartedOn place config result)
    (haccepts : ∀ address state, ∃ there, ((place address).run state).1 = .ok there) :
    (∃ fault, result = .error fault) ↔ ∃ stop, bindings config = .error stop := by
  constructor
  · rintro ⟨fault, rfl⟩
    obtain ⟨stop, _, hstop⟩ := h.start_of_accepts haccepts
    exact ⟨stop, hstop⟩
  · rintro ⟨stop, hstop⟩
    cases h with
    | start _ => exact ⟨_, rfl⟩
    | host _ => exact ⟨_, rfl⟩
    | started h _ =>
      rw [hstop] at h
      cases h

end Accepting

/-- A server that was started has the listeners of its configuration, each where the host has put
it. -/
theorem StartedOn.houses {σ : Type}
    {place : Address.Socket → StateM σ (Except String Address.Socket)} {config : Config}
    {server : Server} (h : StartedOn place config (.ok server)) :
    ∃ placed, List.Forall₂ Houses config.listeners placed ∧
      server = ofBindings config.headerTimeout placed := by
  cases h with
  | started hfound hplaced => exact ⟨_, forall₂_houses (openFrom_eq_ok hfound []).1 hplaced, rfl⟩

/-- What holds of all listeners, where it depends on the limit alone, holds of their slots. -/
theorem forall_free_of_houses {listeners : List Config.Listener} {placed : List Config.Binding}
    {p : Nat → Prop} (h : List.Forall₂ Houses listeners placed)
    (hlimit : ∀ listener ∈ listeners, p listener.maxConnections) :
    ∀ listening ∈ placed.map Listening.start, p listening.free := by
  induction h with
  | nil => simp
  | cons hhouses _ ih =>
    obtain ⟨binding, address, ⟨hresolve, _⟩, rfl⟩ := hhouses
    obtain ⟨bind, _, rfl⟩ := Config.Listener.resolve_eq_ok_iff.mp hresolve
    rw [List.forall_mem_cons] at hlimit
    rw [List.map_cons, List.forall_mem_cons]
    exact ⟨hlimit.1, ih hlimit.2⟩

/-- No fatal problem stands in the way of a configuration without problems. -/
theorem bindings_ne_error_of_validate {config : Config} (h : config.validate = .ok ())
    (fault : StartFault) : bindings config ≠ .error fault := by
  intro hbindings
  obtain ⟨problem, hproblem, _⟩ := bindings_eq_error_iff.mp hbindings
  rw [Config.validate_eq_ok_iff.mp h] at hproblem
  cases hproblem

/-- Two sound listeners at one address have both asked for a fresh port. -/
theorem pairwise_address_of_validate {config : Config} (h : config.validate = .ok ()) :
    config.listeners.Pairwise fun listener other => ∀ binding binding',
      listener.resolve = .ok binding → other.resolve = .ok binding' →
      binding.address = binding'.address → binding.address.port = 0 := by
  obtain ⟨_, hlisteners, _⟩ := Config.problems_eq_nil_iff.mp (Config.validate_eq_ok_iff.mp h)
  refine (Config.listenerProblems_eq_nil_iff.mp hlisteners).2.imp ?_
  intro listener other htaken binding binding' hbinding hbinding' hsame
  by_contra hport
  refine htaken binding.address ?_ ?_
  · rw [Config.Listener.taken?, hbinding]
    exact if_neg hport
  · rw [Config.Listener.taken?, hbinding', hsame]
    exact if_neg (hsame ▸ hport)

/-- What a launch goes on with has no problems. -/
theorem validate_of_effective {options : Command.LaunchOptions}
    {readFile : String → Option Bytes} {config : Config}
    (h : options.effective readFile = .ok config) : config.validate = .ok () := by
  have haccept : ∀ candidate : Config, candidate.accept = .ok config →
      config.validate = .ok () := by
    intro candidate haccepted
    rw [Config.accept] at haccepted
    cases hvalidate : candidate.validate with
    | error problems =>
      rw [hvalidate] at haccepted
      cases haccepted
    | ok =>
      rw [hvalidate] at haccepted
      cases haccepted
      exact hvalidate
  rw [Command.LaunchOptions.effective] at h
  cases hpath : options.config with
  | none =>
    rw [hpath] at h
    exact haccept _ h
  | some path =>
    rw [hpath] at h
    cases hload : Config.load (readFile path) with
    | error fault =>
      dsimp only at h
      rw [hload] at h
      cases h
    | ok base =>
      dsimp only at h
      rw [hload] at h
      exact haccept _ h

/-- A launch is never given up for its listeners, and what it runs has no problems. -/
theorem ofArguments_validates (readFile : String → Option Bytes) (arguments : List String) :
    (∀ stop, Command.Launch.ofArguments readFile arguments ≠ .failed (.noStart stop)) ∧
      ∀ running, Command.Launch.ofArguments readFile arguments = .running running →
        running.validate = .ok () := by
  rw [Command.Launch.ofArguments]
  cases Command.LaunchOptions.parse arguments with
  | error stop => exact ⟨nofun, nofun⟩
  | ok options =>
    dsimp only
    cases heffective : options.effective readFile with
    | error fault => exact ⟨nofun, nofun⟩
    | ok config =>
      have hvalidate := validate_of_effective heffective
      dsimp only
      cases hbindings : bindings config with
      | error fault => exact absurd hbindings (bindings_ne_error_of_validate hvalidate fault)
      | ok found =>
        refine ⟨nofun, fun running hrunning => ?_⟩
        cases hrunning
        exact hvalidate

/-- **What passes validation starts, and what the start refuses was reported.**  On any host:

* When the host accepts every address, a start fails exactly when validation finds an address that
  cannot be read or a limit that cannot be counted, and it fails for the first of these.
* A configuration without problems is refused only by the host.  Its server has at least one slot
  and at most `slotLimit` slots for each listener; no two of its listeners come to one address,
  unless both ask for a fresh port; and metrics, if wanted, have an address.
* What a launch goes on with has no problems, so that a launch never fails for its listeners. -/
theorem startOn_agrees_with_validate {σ : Type}
    (place : Address.Socket → StateM σ (Except String Address.Socket)) (host : σ)
    (config : Config) :
    let started := ((startOn place config).run host).1
    ((∀ address state, ∃ there, ((place address).run state).1 = .ok there) →
      ((∃ fault, started = .error fault) ↔
        ∃ problem ∈ config.problems, problem.isFatal = true) ∧
      ∀ fault, started = .error fault → ∃ stop problem, fault = .start stop ∧
        config.problems.find? Config.Problem.isFatal = some problem ∧
        Stops config.listeners problem stop) ∧
    (config.validate = .ok () →
      (∀ fault, started = .error fault → ∃ address reason, fault = .host address reason ∧
        ∃ state, ((place address).run state).1 = .error reason) ∧
      (∀ server, started = .ok server → server.listeners.length = config.listeners.length ∧
        ∀ listening ∈ server.listeners, 1 ≤ listening.free ∧ listening.free ≤ Config.slotLimit) ∧
      (config.listeners.Pairwise fun listener other => ∀ binding binding',
        listener.resolve = .ok binding → other.resolve = .ok binding' →
        binding.address = binding'.address → binding.address.port = 0) ∧
      (config.observability.metricsEnabled = true →
        ∃ address, Address.Socket.ofText? config.observability.metricsAddress = some address)) ∧
    ∀ readFile arguments,
      (∀ stop, Command.Launch.ofArguments readFile arguments ≠ .failed (.noStart stop)) ∧
      ∀ running, Command.Launch.ofArguments readFile arguments = .running running →
        running.validate = .ok () := by
  intro started
  have hstarted : StartedOn place config started := startedOn_startOn place host config
  refine ⟨fun haccepts => ⟨?_, fun fault hfault => ?_⟩, fun hvalidate => ?_, ofArguments_validates⟩
  · rw [hstarted.exists_error_iff haccepts, ← List.find?_isSome, Option.isSome_iff_exists]
    constructor
    · rintro ⟨stop, hstop⟩
      obtain ⟨problem, hproblem, _⟩ := bindings_eq_error_iff.mp hstop
      exact ⟨problem, hproblem⟩
    · rintro ⟨problem, hproblem⟩
      exact exists_bindings_eq_error hproblem
  · rw [hfault] at hstarted
    obtain ⟨stop, rfl, hstop⟩ := hstarted.start_of_accepts haccepts
    obtain ⟨problem, hproblem, hstops⟩ := bindings_eq_error_iff.mp hstop
    exact ⟨stop, problem, rfl, hproblem, hstops⟩
  · obtain ⟨_, hlisteners, _, hmetrics⟩ :=
      Config.problems_eq_nil_iff.mp (Config.validate_eq_ok_iff.mp hvalidate)
    have hsound := (Config.listenerProblems_eq_nil_iff.mp hlisteners).1
    refine ⟨fun fault hfault => ?_, fun server hserver => ?_,
      pairwise_address_of_validate hvalidate, hmetrics⟩
    · rw [hfault] at hstarted
      cases hstarted with
      | start h => exact absurd h (bindings_ne_error_of_validate hvalidate _)
      | host h => exact ⟨_, _, rfl, h⟩
    · rw [hserver] at hstarted
      obtain ⟨placed, hhouses, rfl⟩ := hstarted.houses
      refine ⟨by rw [hhouses.length_eq]; exact List.length_map _, ?_⟩
      exact forall_free_of_houses (p := fun limit => 1 ≤ limit ∧ limit ≤ Config.slotLimit) hhouses
        fun listener hmem => (hsound listener hmem).limit

/-- A configuration whose second listener breaks two rules, between others that break one. -/
def muddled : Config where
  listeners := [{ bindAddress := "127.0.0.1:80", maxConnections := 0 },
    { bindAddress := "127.0.0.1:80|P", maxConnections := Config.slotLimit + 1 },
    { bindAddress := ":http" }]

/-- The default configuration with metrics. -/
def measured : Config where
  observability := { metricsEnabled := true }

/-- A host that puts every listener where it is wanted. -/
def anywhere (address : Address.Socket) : StateM Unit (Except String Address.Socket) :=
  pure (.ok address)

/-- A host without a free address. -/
def nowhere (_ : Address.Socket) : StateM Unit (Except String Address.Socket) :=
  pure (.error "Address already in use")

/-- A start fails for the first problem that is fatal, and without problems only for the host. -/
theorem startOn_agrees_with_validate_muddled :
    (∃ stop problem, OpenFault.start
        (.badListener (.v4 ⟨127, 0, 0, 1⟩ 80) (.limit (Config.slotLimit + 1))) = .start stop ∧
      muddled.problems.find? Config.Problem.isFatal = some problem ∧
      Stops muddled.listeners problem stop) ∧
    (∃ address reason, OpenFault.host (.v4 .unspecified 8080) "Address already in use" =
        .host address reason ∧ ∃ state, ((nowhere address).run state).1 = .error reason) ∧
    (∀ listening ∈ (ofBindings 5000 [⟨.v4 .unspecified 8080, .disabled, 10000⟩]).listeners,
      1 ≤ listening.free ∧ listening.free ≤ Config.slotLimit) ∧
    (∃ address, Address.Socket.ofText? "127.0.0.1:9090" = some address) ∧
    (({} : Config).withListeners [":8443|P"]).validate = .ok () := by
  have hvalid : measured.validate = .ok () := by decide
  have hfault : ((startOn anywhere muddled).run ()).1 = .error (.start
      (.badListener (.v4 ⟨127, 0, 0, 1⟩ 80) (.limit (Config.slotLimit + 1)))) := rfl
  have hrefused : ((startOn nowhere measured).run ()).1 =
      .error (.host (.v4 .unspecified 8080) "Address already in use") := rfl
  have hplaced : ((startOn anywhere measured).run ()).1 =
      .ok (ofBindings 5000 [⟨.v4 .unspecified 8080, .disabled, 10000⟩]) := rfl
  have hlaunched : Command.Launch.ofArguments (fun _ => none) ["--listen", ":8443|P"] =
      .running (({} : Config).withListeners [":8443|P"]) := by decide
  obtain ⟨hfirst, _⟩ := startOn_agrees_with_validate anywhere () muddled
  obtain ⟨_, hvalidated, hlaunch⟩ := startOn_agrees_with_validate anywhere () measured
  obtain ⟨_, hhost, _⟩ := startOn_agrees_with_validate nowhere () measured
  obtain ⟨_, hslots, _, hmetrics⟩ := hvalidated hvalid
  refine ⟨(hfirst fun address _ => ⟨address, rfl⟩).2 _ hfault, (hhost hvalid).1 _ hrefused,
    (hslots _ hplaced).2, hmetrics rfl, (hlaunch _ _).2 _ hlaunched⟩

end Server

end ProxyGate
