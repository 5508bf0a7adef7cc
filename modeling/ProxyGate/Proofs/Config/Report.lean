import Mathlib.Data.List.Sort
import ProxyGate.Proofs.Config.Problems

/-!
# A configuration's problems, all of them and in order

`Config.problems` goes through the listeners once and remembers the addresses that it has met.
`Config.Has` says what is wrong with a configuration without such a pass: each problem has a
condition of its own, on the listeners by their indices and on the other settings.
`Problem.place` says where a problem stands among others.

There are four groups.

* Reports.  `IsReport` asks of a list that it holds all that is wrong, nothing else, and in order;
  `IsReport.unique` says that at most one list does.
* The listeners.  The invariant of the pass is `Taken`: the addresses it remembers are those that
  the listeners behind it take.  `mem_listenerProblems_iff` carries it through the list.
* The order.  `pairwise_listenerProblems` goes by the place of each problem, whatever the addresses
  are.
* The whole configuration.  `isReport_problems` puts the other settings around the listeners, and
  `validate_reports` is the result.
-/

namespace ProxyGate.Config

/-! ## Reports -/

/-- The listener at an index is to wait at an address. -/
def Binds (config : Config) (index : Nat) (address : Address.Socket) : Prop :=
  ∃ listener binding, config.listeners[index]? = some listener ∧ listener.resolve = .ok binding ∧
    binding.address = address

/-- Something is wrong with a configuration. -/
def Has (config : Config) : Problem → Prop
  | .noListeners => config.listeners = []
  | .badAddress index fault =>
    ∃ listener, config.listeners[index]? = some listener ∧ listener.resolve = .error fault
  | .sameAddress index address =>
    config.Binds index address ∧ address.port ≠ 0 ∧ ∃ earlier < index, config.Binds earlier address
  | .noConnections index =>
    ∃ listener, config.listeners[index]? = some listener ∧ listener.maxConnections = 0
  | .tooManyConnections index =>
    ∃ listener, config.listeners[index]? = some listener ∧ slotLimit < listener.maxConnections
  | .noHeaderTime => config.headerTimeout = 0
  | .badMetricsAddress text =>
    text = config.observability.metricsAddress ∧ config.observability.metricsEnabled = true ∧
      Address.Socket.ofText? text = none

/-- Where a problem stands in a report: the part of the configuration, then the listener, then its
address before its limit. -/
def Problem.place : Problem → List Nat
  | .noListeners => [0]
  | .badAddress index _ | .sameAddress index _ => [1, index, 0]
  | .noConnections index | .tooManyConnections index => [1, index, 1]
  | .noHeaderTime => [2]
  | .badMetricsAddress _ => [3]

/-- A problem stands before another one. -/
def Problem.Before (problem other : Problem) : Prop :=
  problem.place < other.place

theorem Problem.before_iff {problem other : Problem} :
    problem.Before other ↔ problem.place < other.place := Iff.rfl

/-- Problems with different parts of a configuration stand as these parts do. -/
theorem Problem.before_of_part_lt {problem other : Problem} {part part' : Nat}
    {place place' : List Nat} (h : problem.place = part :: place)
    (h' : other.place = part' :: place') (hlt : part < part') : problem.Before other := by
  rw [before_iff, h, h']
  exact List.cons_lt_cons_iff.mpr (Or.inl hlt)

/-- A list says everything that is wrong with a configuration, each thing once and in its place. -/
structure IsReport (config : Config) (list : List Problem) : Prop where
  mem_iff : ∀ problem, problem ∈ list ↔ config.Has problem
  ordered : list.Pairwise Problem.Before

instance : Std.Irrefl Problem.Before where
  irrefl problem := List.lt_irrefl problem.place

instance : Std.Antisymm Problem.Before where
  antisymm _ _ h h' := absurd h' (List.lt_asymm h)

theorem IsReport.unique {config : Config} {list list' : List Problem} (h : config.IsReport list)
    (h' : config.IsReport list') : list = list' :=
  h.ordered.eq_of_mem_iff h'.ordered fun problem =>
    (h.mem_iff problem).trans (h'.mem_iff problem).symm

/-! ## The listeners -/

/-- The addresses `seen` are those that the listeners take. -/
def Taken (listeners : List Listener) (seen : List Address.Socket) : Prop :=
  ∀ address, address ∈ seen ↔ ∃ listener ∈ listeners, listener.taken? = some address

theorem Taken.snoc {front : List Listener} {seen : List Address.Socket} (h : Taken front seen)
    (index : Nat) (listener : Listener) :
    Taken (front ++ [listener]) (addressProblems seen index listener).2 := by
  intro address
  rw [mem_addressProblems_iff, h address]
  simp [or_and_right, exists_or]

theorem Listener.taken?_eq_some_iff {listener : Listener} {address : Address.Socket} :
    listener.taken? = some address ↔
      (∃ binding, listener.resolve = .ok binding ∧ binding.address = address) ∧
        address.port ≠ 0 := by
  rw [taken?]
  cases listener.resolve with
  | error fault => simp
  | ok binding =>
    by_cases hport : binding.address.port = 0
    · simp only [hport, if_true, reduceCtorEq, Except.ok.injEq, exists_eq_left', false_iff]
      rintro ⟨rfl, hother⟩
      exact hother hport
    · simp only [hport, if_false, Option.some.injEq, Except.ok.injEq, exists_eq_left']
      exact ⟨fun h => ⟨h, h ▸ hport⟩, And.left⟩

theorem mem_addressProblems_fst_iff {seen : List Address.Socket} {index : Nat} {listener : Listener}
    {problem : Problem} :
    problem ∈ (addressProblems seen index listener).1 ↔
      (∃ fault, listener.resolve = .error fault ∧ problem = .badAddress index fault) ∨
        ∃ address ∈ seen, listener.taken? = some address ∧
          problem = .sameAddress index address := by
  rcases addressProblems_cases seen index listener with ⟨_, hresolve, htaken, heq⟩ |
    ⟨_, hresolve, htaken, heq⟩ | ⟨_, hresolve, htaken, hseen, heq⟩ |
    ⟨_, hresolve, htaken, hseen, heq⟩
  · simp [heq, hresolve, htaken]
  · simp [heq, hresolve, htaken]
  · simp [heq, hresolve, htaken, hseen]
  · simp [heq, hresolve, htaken, hseen]

theorem mem_limitProblems_iff {index : Nat} {listener : Listener} {problem : Problem} :
    problem ∈ limitProblems index listener ↔
      listener.maxConnections = 0 ∧ problem = .noConnections index ∨
        slotLimit < listener.maxConnections ∧ problem = .tooManyConnections index := by
  rw [limitProblems]
  by_cases hzero : listener.maxConnections = 0
  · simp [hzero]
  · by_cases hlimit : slotLimit < listener.maxConnections <;> simp [hzero, hlimit]

section Pass

variable {config : Config} {front rest : List Listener} {listener : Listener}
  {seen : List Address.Socket} {problem : Problem}

theorem getElem?_of_listeners_eq (hlisteners : config.listeners = front ++ listener :: rest) :
    config.listeners[front.length]? = some listener := by
  rw [hlisteners, List.getElem?_append_right (Nat.le_refl _), Nat.sub_self]
  rfl

/-- What the listener at hand binds. -/
theorem binds_length_iff (hlisteners : config.listeners = front ++ listener :: rest)
    {address : Address.Socket} :
    config.Binds front.length address ↔
      ∃ binding, listener.resolve = .ok binding ∧ binding.address = address := by
  simp only [Binds, getElem?_of_listeners_eq hlisteners, Option.some.injEq, exists_and_left,
    exists_eq_left']

/-- What the listeners in front of it bind. -/
theorem exists_binds_iff (hlisteners : config.listeners = front ++ rest)
    {address : Address.Socket} :
    (∃ earlier < front.length, config.Binds earlier address) ↔
      ∃ listener ∈ front, ∃ binding, listener.resolve = .ok binding ∧
        binding.address = address := by
  constructor
  · rintro ⟨earlier, hlt, listener, binding, hget, hbinding⟩
    rw [hlisteners, List.getElem?_append_left hlt] at hget
    exact ⟨listener, List.mem_of_getElem? hget, binding, hbinding⟩
  · rintro ⟨listener, hmem, binding, hbinding⟩
    obtain ⟨earlier, hlt, rfl⟩ := List.getElem_of_mem hmem
    refine ⟨earlier, hlt, front[earlier], binding, ?_, hbinding⟩
    rw [hlisteners, List.getElem?_append_left hlt, List.getElem?_eq_getElem hlt]

/-- An address is taken when a listener in front binds it and it has a port of its own. -/
theorem Taken.mem_iff (hseen : Taken front seen) (hlisteners : config.listeners = front ++ rest)
    {address : Address.Socket} :
    address ∈ seen ↔
      (∃ earlier < front.length, config.Binds earlier address) ∧ address.port ≠ 0 := by
  rw [hseen address, exists_binds_iff hlisteners]
  simp only [Listener.taken?_eq_some_iff]
  exact ⟨fun ⟨listener, hmem, hbinds, hport⟩ => ⟨⟨listener, hmem, hbinds⟩, hport⟩,
    fun ⟨⟨listener, hmem, hbinds⟩, hport⟩ => ⟨listener, hmem, hbinds, hport⟩⟩

/-- What the pass finds at a listener is what is wrong with it. -/
theorem mem_ownProblems_iff (hseen : Taken front seen)
    (hlisteners : config.listeners = front ++ listener :: rest) :
    problem ∈ (addressProblems seen front.length listener).1 ++
        limitProblems front.length listener ↔
      problem.index? = some front.length ∧ config.Has problem := by
  have hget := getElem?_of_listeners_eq hlisteners
  rw [List.mem_append, mem_addressProblems_fst_iff, mem_limitProblems_iff]
  cases problem with
  | noListeners | noHeaderTime | badMetricsAddress => simp [Problem.index?]
  | badAddress index | noConnections index | tooManyConnections index =>
    by_cases hindex : index = front.length
    · subst hindex
      simp [Problem.index?, Has, hget]
    · simp [Problem.index?, hindex]
  | sameAddress index address =>
    by_cases hindex : index = front.length
    · subst hindex
      simp only [Problem.index?, Has, binds_length_iff hlisteners, hseen.mem_iff hlisteners,
        Listener.taken?_eq_some_iff, Problem.sameAddress.injEq, true_and, reduceCtorEq, and_false,
        exists_false, false_or, or_false]
      constructor
      · rintro ⟨_, ⟨hearlier, _⟩, ⟨hbinds, hport⟩, rfl⟩
        exact ⟨hbinds, hport, hearlier⟩
      · rintro ⟨hbinds, hport, hearlier⟩
        exact ⟨address, ⟨hearlier, hport⟩, ⟨hbinds, hport⟩, rfl⟩
    · simp [Problem.index?, hindex]

/-- A problem that concerns a listener concerns one that there is. -/
theorem lt_length_of_has {index : Nat} (h : config.Has problem)
    (hindex : problem.index? = some index) : index < config.listeners.length := by
  have hbound : ∀ other, config.listeners[index]? = some other → index < config.listeners.length :=
    fun other hget => (List.getElem?_eq_some_iff.mp hget).1
  cases problem with
  | noListeners | noHeaderTime | badMetricsAddress => cases hindex
  | badAddress | noConnections | tooManyConnections =>
    obtain ⟨other, hget, _⟩ := h
    cases hindex
    exact hbound other hget
  | sameAddress =>
    obtain ⟨⟨other, _, hget, _⟩, _⟩ := h
    cases hindex
    exact hbound other hget

/-- What the pass finds from a listener on is what is wrong with the listeners from there on. -/
theorem mem_listenerProblems_iff (hseen : Taken front seen)
    (hlisteners : config.listeners = front ++ rest) :
    problem ∈ listenerProblems seen front.length rest ↔
      (∃ index, problem.index? = some index ∧ front.length ≤ index) ∧ config.Has problem := by
  -- the listeners move one by one from `rest` to the end of `front`
  induction rest generalizing front seen with
  | nil =>
    rw [List.append_nil] at hlisteners
    refine iff_of_false List.not_mem_nil ?_
    rintro ⟨⟨index, hindex, hle⟩, hhas⟩
    have hlt := lt_length_of_has hhas hindex
    rw [hlisteners] at hlt
    omega
  | cons listener rest ih =>
    have hrest := ih (hseen.snoc front.length listener) (by simpa using hlisteners)
    rw [List.length_append, List.length_singleton] at hrest
    rw [listenerProblems_cons, List.mem_append, mem_ownProblems_iff hseen hlisteners, hrest]
    constructor
    · rintro (⟨hindex, hhas⟩ | ⟨⟨index, hindex, hle⟩, hhas⟩)
      · exact ⟨⟨front.length, hindex, Nat.le_refl _⟩, hhas⟩
      · exact ⟨⟨index, hindex, by omega⟩, hhas⟩
    · rintro ⟨⟨index, hindex, hle⟩, hhas⟩
      rcases Nat.eq_or_lt_of_le hle with rfl | hlt
      · exact Or.inl ⟨hindex, hhas⟩
      · exact Or.inr ⟨⟨index, hindex, hlt⟩, hhas⟩

end Pass

/-! ## The order -/

section Order

variable {seen : List Address.Socket} {index : Nat} {listener : Listener}
  {listeners : List Listener} {problem : Problem}

theorem place_of_mem_addressProblems (h : problem ∈ (addressProblems seen index listener).1) :
    problem.place = [1, index, 0] := by
  rcases mem_addressProblems_fst_iff.mp h with ⟨_, _, rfl⟩ | ⟨_, _, _, rfl⟩ <;> rfl

theorem place_of_mem_limitProblems (h : problem ∈ limitProblems index listener) :
    problem.place = [1, index, 1] := by
  rcases mem_limitProblems_iff.mp h with ⟨_, rfl⟩ | ⟨_, rfl⟩ <;> rfl

theorem exists_place_of_mem_listenerProblems (h : problem ∈ listenerProblems seen index listeners) :
    ∃ later rank, index ≤ later ∧ problem.place = [1, later, rank] := by
  induction listeners generalizing seen index with
  | nil => exact absurd h List.not_mem_nil
  | cons listener rest ih =>
    rw [listenerProblems_cons, List.mem_append, List.mem_append] at h
    rcases h with (h | h) | h
    · exact ⟨index, 0, Nat.le_refl _, place_of_mem_addressProblems h⟩
    · exact ⟨index, 1, Nat.le_refl _, place_of_mem_limitProblems h⟩
    · obtain ⟨later, rank, hle, hplace⟩ := ih h
      exact ⟨later, rank, by omega, hplace⟩

theorem pairwise_ite {condition : Prop} [Decidable condition] :
    (if condition then [problem] else []).Pairwise Problem.Before := by
  split
  · exact List.pairwise_singleton ..
  · exact .nil

/-- There is at most one problem with an address. -/
theorem pairwise_addressProblems :
    (addressProblems seen index listener).1.Pairwise Problem.Before := by
  rcases addressProblems_cases seen index listener with ⟨_, _, _, heq⟩ | ⟨_, _, _, heq⟩ |
    ⟨_, _, _, _, heq⟩ | ⟨_, _, _, _, heq⟩ <;> simp [heq]

/-- There is at most one problem with a limit. -/
theorem pairwise_limitProblems : (limitProblems index listener).Pairwise Problem.Before := by
  rw [limitProblems]
  split
  · exact List.pairwise_singleton ..
  split
  · exact List.pairwise_singleton ..
  · exact .nil

theorem pairwise_listenerProblems :
    (listenerProblems seen index listeners).Pairwise Problem.Before := by
  induction listeners generalizing seen index with
  | nil => exact .nil
  | cons listener rest ih =>
    rw [listenerProblems_cons, List.pairwise_append, List.pairwise_append]
    refine ⟨⟨pairwise_addressProblems, pairwise_limitProblems, ?_⟩, ih, ?_⟩
    · intro problem hproblem other hother
      rw [Problem.before_iff, place_of_mem_addressProblems hproblem,
        place_of_mem_limitProblems hother]
      simp [List.cons_lt_cons_iff]
    · intro problem hproblem other hother
      obtain ⟨later, rank, hle, hplace⟩ := exists_place_of_mem_listenerProblems hother
      have hlt : index < later := by omega
      rw [Problem.before_iff, hplace]
      rcases List.mem_append.mp hproblem with h | h
      · rw [place_of_mem_addressProblems h]
        simp [List.cons_lt_cons_iff, hlt]
      · rw [place_of_mem_limitProblems h]
        simp [List.cons_lt_cons_iff, hlt]

end Order

/-! ## The whole configuration -/

theorem mem_problems_iff {config : Config} {problem : Problem} :
    problem ∈ config.problems ↔ config.Has problem := by
  have hstart : Taken [] [] := fun address => by simp
  have hlisteners : problem ∈ listenerProblems [] 0 config.listeners ↔
      (∃ index, problem.index? = some index ∧ 0 ≤ index) ∧ config.Has problem :=
    mem_listenerProblems_iff hstart rfl
  simp only [Nat.zero_le, and_true] at hlisteners
  simp only [problems, metricsProblems, List.mem_append, List.mem_ite_nil_right, hlisteners,
    List.mem_singleton]
  cases problem with
  | noListeners | noHeaderTime => simp [Problem.index?, Has]
  | badMetricsAddress text =>
    simp only [Problem.index?, Has, reduceCtorEq, and_false, exists_false, false_and, false_or,
      Problem.badMetricsAddress.injEq]
    rw [and_comm]
    exact and_congr_right fun htext => by rw [htext]
  | badAddress | sameAddress | noConnections | tooManyConnections => simp [Problem.index?]

theorem pairwise_problems (config : Config) : config.problems.Pairwise Problem.Before := by
  simp only [problems, metricsProblems, List.pairwise_append, List.mem_append,
    List.mem_ite_nil_right, List.mem_singleton]
  refine ⟨⟨⟨pairwise_ite, pairwise_listenerProblems, ?_⟩, pairwise_ite, ?_⟩, pairwise_ite, ?_⟩
  · rintro _ ⟨_, rfl⟩ other hother
    obtain ⟨_, _, _, hplace⟩ := exists_place_of_mem_listenerProblems hother
    exact Problem.before_of_part_lt rfl hplace (by decide)
  · rintro problem (⟨_, rfl⟩ | hproblem) _ ⟨_, rfl⟩
    · exact Problem.before_of_part_lt rfl rfl (by decide)
    · obtain ⟨_, _, _, hplace⟩ := exists_place_of_mem_listenerProblems hproblem
      exact Problem.before_of_part_lt hplace rfl (by decide)
  · rintro problem ((⟨_, rfl⟩ | hproblem) | ⟨_, rfl⟩) _ ⟨_, rfl⟩
    · exact Problem.before_of_part_lt rfl rfl (by decide)
    · obtain ⟨_, _, _, hplace⟩ := exists_place_of_mem_listenerProblems hproblem
      exact Problem.before_of_part_lt hplace rfl (by decide)
    · exact Problem.before_of_part_lt rfl rfl (by decide)

theorem isReport_problems (config : Config) : config.IsReport config.problems where
  mem_iff _ := mem_problems_iff
  ordered := pairwise_problems config

/-- **Validation reports exactly what is wrong, all of it and in order**, and accepts a
configuration that nothing is wrong with. -/
theorem validate_reports (config : Config) :
    (∀ list, config.validate = .error list ↔ list ≠ [] ∧ config.IsReport list) ∧
      (config.validate = .ok () ↔ ∀ problem, ¬config.Has problem) := by
  have hlist : ∀ list, config.problems = list ↔ config.IsReport list := fun list =>
    ⟨fun h => h ▸ isReport_problems config, (isReport_problems config).unique⟩
  constructor
  · intro list
    rw [validate, ← hlist]
    by_cases hnil : config.problems = []
    · rw [if_pos hnil, hnil]
      simp [eq_comm]
    · rw [if_neg hnil, Except.error.injEq]
      exact ⟨fun h => ⟨h ▸ hnil, h⟩, And.right⟩
  · rw [validate_eq_ok_iff, List.eq_nil_iff_forall_not_mem]
    exact forall_congr' fun problem => not_congr mem_problems_iff

example :
    problems { listeners := [{ bindAddress := ":80" }, { bindAddress := "0.0.0.0:80|P" },
      { bindAddress := "nowhere", maxConnections := 0 }], headerTimeout := 0 } =
        [.sameAddress 1 (.v4 .unspecified 80), .badAddress 2 ⟨"nowhere", .address⟩,
          .noConnections 2, .noHeaderTime] := by decide

end ProxyGate.Config
