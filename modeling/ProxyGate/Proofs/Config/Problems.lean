import ProxyGate.Config.Problem

/-!
# What the list of problems says

`Config.problems` goes through the listeners with the addresses that those before them have taken;
`addressProblems_cases` is what comes of each.  This file says what it finds, in two directions:
which problem of the list is the first that keeps a server from starting (`find?_addressProblems`,
`find?_limitProblems`), and what a configuration without problems is like
(`listenerProblems_eq_nil_iff`).
-/

namespace ProxyGate.Config

/-- Whether a problem keeps a server from starting, and not only from running as it should. -/
def Problem.isFatal : Problem → Bool
  | .badAddress _ _ | .tooManyConnections _ => true
  | .noListeners | .sameAddress _ _ | .noConnections _ | .noHeaderTime | .badMetricsAddress _ =>
    false

/-- The address that a listener takes for itself; one that asks for a fresh port takes none. -/
def Listener.taken? (listener : Listener) : Option Address.Socket :=
  match listener.resolve with
  | .ok binding => if binding.address.port = 0 then none else some binding.address
  | .error _ => none

/-- What comes of a listener's address: it cannot be read, it asks for a fresh port, it is taken, or
it is taken now. -/
theorem addressProblems_cases (seen : List Address.Socket) (index : Nat) (listener : Listener) :
    (∃ fault, listener.resolve = .error fault ∧ listener.taken? = none ∧
      addressProblems seen index listener = ([.badAddress index fault], seen)) ∨
    (∃ binding, listener.resolve = .ok binding ∧ listener.taken? = none ∧
      addressProblems seen index listener = ([], seen)) ∨
    (∃ binding, listener.resolve = .ok binding ∧ listener.taken? = some binding.address ∧
      binding.address ∈ seen ∧
      addressProblems seen index listener = ([.sameAddress index binding.address], seen)) ∨
    ∃ binding, listener.resolve = .ok binding ∧ listener.taken? = some binding.address ∧
      binding.address ∉ seen ∧
      addressProblems seen index listener = ([], binding.address :: seen) := by
  rw [addressProblems, Listener.taken?]
  cases listener.resolve with
  | error fault => exact .inl ⟨fault, rfl, rfl, rfl⟩
  | ok binding =>
    dsimp only
    by_cases hport : binding.address.port = 0
    · rw [if_pos hport, if_pos hport]
      exact .inr (.inl ⟨binding, rfl, rfl, rfl⟩)
    · rw [if_neg hport, if_neg hport]
      by_cases hseen : binding.address ∈ seen
      · rw [if_pos hseen]
        exact .inr (.inr (.inl ⟨binding, rfl, rfl, hseen, rfl⟩))
      · rw [if_neg hseen]
        exact .inr (.inr (.inr ⟨binding, rfl, rfl, hseen, rfl⟩))

theorem listenerProblems_cons (seen : List Address.Socket) (index : Nat) (listener : Listener)
    (rest : List Listener) :
    listenerProblems seen index (listener :: rest) =
      (addressProblems seen index listener).1 ++ limitProblems index listener ++
        listenerProblems (addressProblems seen index listener).2 (index + 1) rest := rfl

/-! ## The first fatal problem -/

theorem find?_addressProblems (seen : List Address.Socket) (index : Nat) (listener : Listener) :
    (addressProblems seen index listener).1.find? Problem.isFatal =
      match listener.resolve with
      | .error fault => some (.badAddress index fault)
      | .ok _ => none := by
  rcases addressProblems_cases seen index listener with ⟨_, hresolve, _, heq⟩ |
    ⟨_, hresolve, _, heq⟩ | ⟨_, hresolve, _, _, heq⟩ | ⟨_, hresolve, _, _, heq⟩ <;>
  · rw [heq, hresolve]
    rfl

theorem find?_limitProblems (index : Nat) (listener : Listener) :
    (limitProblems index listener).find? Problem.isFatal =
      if slotLimit < listener.maxConnections then some (.tooManyConnections index) else none := by
  rw [limitProblems]
  by_cases hzero : listener.maxConnections = 0
  · rw [if_pos hzero, if_neg (by omega)]
    rfl
  · rw [if_neg hzero]
    split <;> rfl

/-- Only the listeners have fatal problems. -/
theorem find?_problems (config : Config) :
    config.problems.find? Problem.isFatal =
      (listenerProblems [] 0 config.listeners).find? Problem.isFatal := by
  have hempty : (if config.listeners = [] then [Problem.noListeners] else []).find?
      Problem.isFatal = none := by
    split <;> rfl
  have htime : (if config.headerTimeout = 0 then [Problem.noHeaderTime] else []).find?
      Problem.isFatal = none := by
    split <;> rfl
  have hmetrics : (metricsProblems config.observability).find? Problem.isFatal = none := by
    rw [metricsProblems]
    split <;> rfl
  simp only [problems, List.find?_append, hempty, htime, hmetrics, Option.none_or, Option.or_none]

/-! ## Configurations without problems -/

/-- Nothing is wrong with a listener's address when it can be read and is not taken yet. -/
theorem addressProblems_eq_nil_iff {seen : List Address.Socket} {index : Nat}
    {listener : Listener} :
    (addressProblems seen index listener).1 = [] ↔
      (∃ binding, listener.resolve = .ok binding) ∧
        ∀ address, listener.taken? = some address → address ∉ seen := by
  rcases addressProblems_cases seen index listener with ⟨_, hresolve, htaken, heq⟩ |
    ⟨_, hresolve, htaken, heq⟩ | ⟨_, hresolve, htaken, hseen, heq⟩ |
    ⟨_, hresolve, htaken, hseen, heq⟩
  · simp [heq, hresolve]
  · simp [heq, hresolve, htaken]
  · simp [heq, htaken, hseen]
  · simp [heq, hresolve, htaken, hseen]

/-- The addresses taken after a listener are those taken before it and its own. -/
theorem mem_addressProblems_iff {seen : List Address.Socket} {index : Nat} {listener : Listener}
    {address : Address.Socket} :
    address ∈ (addressProblems seen index listener).2 ↔
      address ∈ seen ∨ listener.taken? = some address := by
  rcases addressProblems_cases seen index listener with ⟨_, _, htaken, heq⟩ | ⟨_, _, htaken, heq⟩ |
    ⟨_, _, htaken, hseen, heq⟩ | ⟨_, _, htaken, _, heq⟩
  · simp [heq, htaken]
  · simp [heq, htaken]
  · rw [heq, htaken, Option.some.injEq]
    exact ⟨Or.inl, fun h => h.elim id fun hsame => hsame ▸ hseen⟩
  · rw [heq, htaken, Option.some.injEq, List.mem_cons, or_comm, eq_comm]

theorem limitProblems_eq_nil_iff {index : Nat} {listener : Listener} :
    limitProblems index listener = [] ↔
      1 ≤ listener.maxConnections ∧ listener.maxConnections ≤ slotLimit := by
  rw [limitProblems]
  split
  · simp
    omega
  · split
    · simp
      omega
    · simp
      omega

/-- A listener that nothing is wrong with, where the addresses `seen` are taken. -/
structure Listener.IsSound (seen : List Address.Socket) (listener : Listener) : Prop where
  resolves : ∃ binding, listener.resolve = .ok binding
  limit : 1 ≤ listener.maxConnections ∧ listener.maxConnections ≤ slotLimit
  fresh : ∀ address, listener.taken? = some address → address ∉ seen

/-- Nothing is wrong with listeners when nothing is wrong with each of them and no two take the same
address. -/
theorem listenerProblems_eq_nil_iff {seen : List Address.Socket} {index : Nat}
    {listeners : List Listener} :
    listenerProblems seen index listeners = [] ↔
      (∀ listener ∈ listeners, listener.IsSound seen) ∧
        listeners.Pairwise fun listener other =>
          ∀ address, listener.taken? = some address → other.taken? ≠ some address := by
  induction listeners generalizing seen index with
  | nil => simp [listenerProblems]
  | cons listener rest ih =>
    rw [listenerProblems_cons, List.append_eq_nil_iff, List.append_eq_nil_iff,
      addressProblems_eq_nil_iff, limitProblems_eq_nil_iff, ih, List.forall_mem_cons,
      List.pairwise_cons]
    constructor
    · rintro ⟨⟨⟨hresolve, hfresh⟩, hlimit⟩, hrest, hpairs⟩
      refine ⟨⟨⟨hresolve, hlimit, hfresh⟩, fun other hother => ?_⟩, fun other hother address htaken
        htwice => ?_, hpairs⟩
      · refine ⟨(hrest other hother).resolves, (hrest other hother).limit,
          fun address h hseen => ?_⟩
        exact (hrest other hother).fresh address h (mem_addressProblems_iff.mpr (Or.inl hseen))
      · exact (hrest other hother).fresh address htwice
          (mem_addressProblems_iff.mpr (Or.inr htaken))
    · rintro ⟨⟨⟨hresolve, hlimit, hfresh⟩, hrest⟩, hpair, hpairs⟩
      refine ⟨⟨⟨hresolve, hfresh⟩, hlimit⟩, fun other hother => ?_, hpairs⟩
      refine ⟨(hrest other hother).resolves, (hrest other hother).limit, fun address h hseen => ?_⟩
      rcases mem_addressProblems_iff.mp hseen with hseen | htaken
      · exact (hrest other hother).fresh address h hseen
      · exact hpair other hother address htaken h

/-- Nothing is wrong with a configuration when it has listeners, nothing is wrong with them, there
is time for a header, and metrics, if wanted, have an address. -/
theorem problems_eq_nil_iff {config : Config} :
    config.problems = [] ↔
      config.listeners ≠ [] ∧ listenerProblems [] 0 config.listeners = [] ∧
        config.headerTimeout ≠ 0 ∧
        (config.observability.metricsEnabled = true → ∃ address,
          Address.Socket.ofText? config.observability.metricsAddress = some address) := by
  have hmetrics : metricsProblems config.observability = [] ↔
      (config.observability.metricsEnabled = true →
        ∃ address, Address.Socket.ofText? config.observability.metricsAddress = some address) := by
    simp [metricsProblems, Option.ne_none_iff_exists']
  simp only [problems, List.append_eq_nil_iff, hmetrics, ite_eq_right_iff, reduceCtorEq, imp_false,
    and_assoc, ne_eq]

theorem validate_eq_ok_iff {config : Config} : config.validate = .ok () ↔ config.problems = [] := by
  rw [validate]
  split <;> simp [*]

end ProxyGate.Config
