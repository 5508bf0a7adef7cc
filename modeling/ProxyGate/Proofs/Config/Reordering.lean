import Mathlib.Data.List.Dedup
import ProxyGate.Proofs.Config.Problems

/-!
# The order of the listeners does not matter

An address that two listeners have is reported of the later one, so another order of the listeners
puts other indices into a report.  Nothing else of it changes.

* Repeats.  `repeats` is what the pass over the listeners finds to be taken already, as a function of
  their addresses alone.  Its invariant is `count_repeats`: an address is repeated as often as it
  comes, less one time if it was not seen before.
* Reports without places.  `Problem.unplaced` forgets the listener that a problem concerns.
  `unplaced_listenerProblems` says that, up to order, a report then holds what is wrong with each
  listener on its own, and the repeats.
* `validate_reordered` puts these together.
-/

namespace ProxyGate.Config

/-! ## Repeats -/

/-- The addresses that come again, after the addresses `seen`. -/
def repeats (seen : List Address.Socket) : List Address.Socket → List Address.Socket
  | [] => []
  | address :: rest =>
    if address ∈ seen then address :: repeats seen rest else repeats (address :: seen) rest

theorem count_repeats (seen addresses : List Address.Socket) (address : Address.Socket) :
    (repeats seen addresses).count address =
      addresses.count address - if address ∈ seen then 0 else 1 := by
  induction addresses generalizing seen with
  | nil => simp [repeats]
  | cons first rest ih =>
    unfold repeats
    by_cases hsame : first = address
    · subst hsame
      rw [List.count_cons_self]
      by_cases hseen : first ∈ seen
      · rw [if_pos hseen, if_pos hseen, List.count_cons_self, ih, if_pos hseen]
        rfl
      · rw [if_neg hseen, if_neg hseen, ih, if_pos List.mem_cons_self]
        rfl
    · rw [List.count_cons_of_ne hsame]
      by_cases hseen : first ∈ seen
      · rw [if_pos hseen, List.count_cons_of_ne hsame, ih]
      · rw [if_neg hseen, ih]
        simp only [List.mem_cons, Ne.symm hsame, false_or]

theorem repeats_perm {addresses addresses' : List Address.Socket} (h : addresses.Perm addresses') :
    (repeats [] addresses).Perm (repeats [] addresses') := by
  rw [List.perm_iff_count]
  intro address
  rw [count_repeats, count_repeats, h.count_eq]

/-- Every address comes once and then as a repeat. -/
theorem repeats_append_dedup_perm (addresses : List Address.Socket) :
    (repeats [] addresses ++ addresses.dedup).Perm addresses := by
  rw [List.perm_iff_count]
  intro address
  rw [List.count_append, count_repeats, if_neg List.not_mem_nil, List.count_dedup]
  split
  · rename_i hmem
    have hpos := List.count_pos_iff.mpr hmem
    omega
  · rename_i hmem
    rw [List.count_eq_zero_of_not_mem hmem]

theorem length_repeats_add (addresses : List Address.Socket) :
    (repeats [] addresses).length + addresses.dedup.length = addresses.length := by
  rw [← List.length_append]
  exact (repeats_append_dedup_perm addresses).length_eq

/-! ## Reports without places -/

namespace Problem

/-- What kind of thing is wrong. -/
inductive Kind where
  | noListeners
  | badAddress
  | sameAddress
  | noConnections
  | tooManyConnections
  | noHeaderTime
  | badMetricsAddress
deriving DecidableEq, Repr

def kind : Problem → Kind
  | .noListeners => .noListeners
  | .badAddress _ _ => .badAddress
  | .sameAddress _ _ => .sameAddress
  | .noConnections _ => .noConnections
  | .tooManyConnections _ => .tooManyConnections
  | .noHeaderTime => .noHeaderTime
  | .badMetricsAddress _ => .badMetricsAddress

/-- The fault of an address that cannot be read. -/
def fault? : Problem → Option BindAddress.Fault
  | .badAddress _ fault => some fault
  | _ => none

/-- The address that an earlier listener has. -/
def repeated? : Problem → Option Address.Socket
  | .sameAddress _ address => some address
  | _ => none

/-- The same problem, whichever listener it concerns. -/
def unplaced : Problem → Problem
  | .badAddress _ fault => .badAddress 0 fault
  | .sameAddress _ address => .sameAddress 0 address
  | .noConnections _ => .noConnections 0
  | .tooManyConnections _ => .tooManyConnections 0
  | .noListeners => .noListeners
  | .noHeaderTime => .noHeaderTime
  | .badMetricsAddress text => .badMetricsAddress text

@[simp] theorem kind_unplaced (problem : Problem) : problem.unplaced.kind = problem.kind := by
  cases problem <;> rfl

@[simp] theorem fault?_unplaced (problem : Problem) : problem.unplaced.fault? = problem.fault? := by
  cases problem <;> rfl

@[simp] theorem repeated?_unplaced (problem : Problem) :
    problem.unplaced.repeated? = problem.repeated? := by
  cases problem <;> rfl

theorem isSome_repeated? (problem : Problem) :
    problem.repeated?.isSome = decide (problem.kind = .sameAddress) := by
  cases problem <;> rfl

end Problem

/-- What is wrong with a listener on its own, wherever it stands. -/
def Listener.flaws (listener : Listener) : List Problem :=
  (match listener.resolve with
    | .error fault => [.badAddress 0 fault]
    | .ok _ => []) ++ limitProblems 0 listener

theorem unplaced_limitProblems (index : Nat) (listener : Listener) :
    (limitProblems index listener).map Problem.unplaced = limitProblems 0 listener := by
  unfold limitProblems
  split
  · rfl
  split
  · rfl
  · rfl

/-- The problems of the listeners are what is wrong with each of them, and the repeats. -/
theorem unplaced_listenerProblems (seen : List Address.Socket) (index : Nat)
    (listeners : List Listener) :
    ((listenerProblems seen index listeners).map Problem.unplaced).Perm
      (listeners.flatMap Listener.flaws ++
        (repeats seen (listeners.filterMap Listener.taken?)).map (.sameAddress 0)) := by
  induction listeners generalizing seen index with
  | nil => exact .refl _
  | cons listener rest ih =>
    rw [listenerProblems_cons, List.map_append, List.map_append, unplaced_limitProblems,
      List.flatMap_cons, List.filterMap_cons, List.append_assoc, Listener.flaws, List.append_assoc,
      List.append_assoc]
    rcases addressProblems_cases seen index listener with ⟨fault, hresolve, htaken, heq⟩ |
      ⟨binding, hresolve, htaken, heq⟩ | ⟨binding, hresolve, htaken, hseen, heq⟩ |
      ⟨binding, hresolve, htaken, hseen, heq⟩
    · rw [heq, hresolve, htaken]
      exact ((ih seen (index + 1)).append_left _).append_left _
    · rw [heq, hresolve, htaken]
      exact ((ih seen (index + 1)).append_left _).append_left _
    · -- the repeat is reported with its listener, and counted behind all of them
      rw [heq, hresolve, htaken]
      dsimp only
      rw [repeats, if_pos hseen, List.map_cons]
      refine (((ih seen (index + 1)).append_left _).cons (.sameAddress 0 binding.address)).trans ?_
      rw [List.nil_append, ← List.append_assoc, ← List.append_assoc]
      exact List.perm_middle.symm
    · rw [heq, hresolve, htaken]
      dsimp only
      rw [repeats, if_neg hseen]
      exact ((ih _ (index + 1)).append_left _).append_left _

/-- A report of the same listeners in another order says the same, with other places. -/
theorem unplaced_problems_perm (config : Config) {listeners : List Listener}
    (h : listeners.Perm config.listeners) :
    (({ config with listeners } : Config).problems.map Problem.unplaced).Perm
      (config.problems.map Problem.unplaced) := by
  have hempty : (if listeners = [] then [Problem.noListeners] else []) =
      if config.listeners = [] then [.noListeners] else [] := by
    have hnil : listeners = [] ↔ config.listeners = [] := by
      rw [← List.length_eq_zero_iff, ← List.length_eq_zero_iff, h.length_eq]
    simp only [hnil]
  have hlisteners : ((listenerProblems [] 0 listeners).map Problem.unplaced).Perm
      ((listenerProblems [] 0 config.listeners).map Problem.unplaced) := by
    refine (unplaced_listenerProblems [] 0 listeners).trans ?_
    refine .trans ?_ (unplaced_listenerProblems [] 0 config.listeners).symm
    exact (h.flatMap_right _).append ((repeats_perm (h.filterMap _)).map _)
  unfold problems
  dsimp only
  rw [hempty]
  simp only [List.map_append]
  exact ((hlisteners.append_left _).append_right _).append_right _

/-- What does not see places sees the same in two reports that say the same. -/
theorem map_perm_of_unplaced {α : Type} {f : Problem → α}
    (hf : ∀ problem, f problem.unplaced = f problem) {list list' : List Problem}
    (h : (list.map Problem.unplaced).Perm (list'.map Problem.unplaced)) :
    (list.map f).Perm (list'.map f) := by
  have hmap := h.map f
  rw [List.map_map, List.map_map] at hmap
  rwa [show f ∘ Problem.unplaced = f from funext hf] at hmap

theorem filterMap_perm_of_unplaced {α : Type} {f : Problem → Option α}
    (hf : ∀ problem, f problem.unplaced = f problem) {list list' : List Problem}
    (h : (list.map Problem.unplaced).Perm (list'.map Problem.unplaced)) :
    (list.filterMap f).Perm (list'.filterMap f) := by
  have hmap := h.filterMap f
  rw [List.filterMap_map, List.filterMap_map] at hmap
  rwa [show f ∘ Problem.unplaced = f from funext hf] at hmap

/-! ## The repeated addresses of a report -/

theorem repeated?_of_mem_limitProblems {index : Nat} {listener : Listener} {problem : Problem}
    (h : problem ∈ limitProblems index listener) : problem.repeated? = none := by
  unfold limitProblems at h
  split at h
  · rw [List.mem_singleton.mp h]
    rfl
  split at h
  · rw [List.mem_singleton.mp h]
    rfl
  · exact absurd h List.not_mem_nil

/-- No listener repeats an address on its own. -/
theorem filterMap_repeated?_flaws (listeners : List Listener) :
    (listeners.flatMap Listener.flaws).filterMap Problem.repeated? = [] := by
  rw [List.filterMap_eq_nil_iff]
  intro problem hproblem
  obtain ⟨listener, _, hflaw⟩ := List.mem_flatMap.mp hproblem
  rw [Listener.flaws, List.mem_append] at hflaw
  rcases hflaw with hflaw | hflaw
  · split at hflaw
    · rw [List.mem_singleton.mp hflaw]
      rfl
    · exact absurd hflaw List.not_mem_nil
  · exact repeated?_of_mem_limitProblems hflaw

/-- The addresses that a report names as repeated are the repeats of the addresses taken. -/
theorem repeated_problems_perm (config : Config) :
    (config.problems.filterMap Problem.repeated?).Perm
      (repeats [] (config.listeners.filterMap Listener.taken?)) := by
  have hlisteners : ((listenerProblems [] 0 config.listeners).filterMap Problem.repeated?).Perm
      (repeats [] (config.listeners.filterMap Listener.taken?)) := by
    have h := (unplaced_listenerProblems [] 0 config.listeners).filterMap Problem.repeated?
    rw [List.filterMap_map, List.filterMap_append, filterMap_repeated?_flaws, List.nil_append,
      List.filterMap_map] at h
    rw [show Problem.repeated? ∘ Problem.unplaced = Problem.repeated? from
      funext Problem.repeated?_unplaced, show Problem.repeated? ∘ Problem.sameAddress 0 = some from
      rfl, List.filterMap_some] at h
    exact h
  have hempty : (if config.listeners = [] then [Problem.noListeners] else []).filterMap
      Problem.repeated? = [] := by
    split <;> rfl
  have htime : (if config.headerTimeout = 0 then [Problem.noHeaderTime] else []).filterMap
      Problem.repeated? = [] := by
    split <;> rfl
  have hmetrics : (metricsProblems config.observability).filterMap Problem.repeated? = [] := by
    unfold metricsProblems
    split <;> rfl
  unfold problems
  simp only [List.filterMap_append, hempty, htime, hmetrics, List.nil_append, List.append_nil]
  exact hlisteners

theorem count_sameAddress (list : List Problem) :
    (list.map Problem.kind).count .sameAddress = (list.filterMap Problem.repeated?).length := by
  rw [List.count_eq_countP, List.countP_map, List.length_filterMap_eq_countP]
  congr 1
  funext problem
  rw [Problem.isSome_repeated?]
  rfl

/-! ## Verdicts -/

/-- The problems that a verdict names. -/
def named : Except (List Problem) Unit → List Problem
  | .ok () => []
  | .error list => list

theorem named_validate (config : Config) : named config.validate = config.problems := by
  unfold validate
  split
  · rename_i hnil
    rw [hnil]
    rfl
  · rfl

/-- **The order of the listeners does not matter to validation.**  Where the same listeners stand in
another order,

* both configurations are accepted or none;
* as many problems of each kind are named, with the same faults of addresses and the same repeated
  addresses, each of them as often;
* the repeated addresses are as many as the listeners that take an address, less the different
  addresses that they take. -/
theorem validate_reordered (config : Config) (listeners : List Listener)
    (h : listeners.Perm config.listeners) :
    let other : Config := { config with listeners }
    (other.validate = .ok () ↔ config.validate = .ok ()) ∧
    (∀ kind, ((named other.validate).map Problem.kind).count kind =
      ((named config.validate).map Problem.kind).count kind) ∧
    ((named other.validate).filterMap Problem.fault?).Perm
      ((named config.validate).filterMap Problem.fault?) ∧
    ((named other.validate).filterMap Problem.repeated?).Perm
      ((named config.validate).filterMap Problem.repeated?) ∧
    ((named config.validate).map Problem.kind).count .sameAddress +
        (config.listeners.filterMap Listener.taken?).dedup.length =
      (config.listeners.filterMap Listener.taken?).length := by
  have hperm := unplaced_problems_perm config h
  intro other
  rw [validate_eq_ok_iff, validate_eq_ok_iff, named_validate, named_validate]
  refine ⟨?_, ?_, ?_, ?_, ?_⟩
  · rw [← List.length_eq_zero_iff, ← List.length_eq_zero_iff,
      ← List.length_map Problem.unplaced, hperm.length_eq, List.length_map]
  · intro kind
    exact (map_perm_of_unplaced Problem.kind_unplaced hperm).count_eq kind
  · exact filterMap_perm_of_unplaced Problem.fault?_unplaced hperm
  · exact filterMap_perm_of_unplaced Problem.repeated?_unplaced hperm
  · rw [count_sameAddress, (repeated_problems_perm config).length_eq, length_repeats_add]

/-- Two listeners with one address among others that have problems of their own. -/
def crowded : Config where
  listeners := [{ bindAddress := ":80", maxConnections := 0 }, { bindAddress := "nowhere|P" },
    { bindAddress := "0.0.0.0:080|P" }, { bindAddress := "[::]:0" }, { bindAddress := "[::]:0" }]

/-- The same listeners, the repeated address first where it was last. -/
def crowdedAnew : List Listener :=
  [{ bindAddress := "[::]:0" }, { bindAddress := "0.0.0.0:080|P" }, { bindAddress := "nowhere|P" },
    { bindAddress := "[::]:0" }, { bindAddress := ":80", maxConnections := 0 }]

/-- Other listeners are reported, for the same reasons. -/
theorem validate_reordered_crowded :
    crowdedAnew.Perm crowded.listeners ∧
    crowded.validate = .error [.noConnections 0, .badAddress 1 ⟨"nowhere|P", .address⟩,
      .sameAddress 2 (.v4 .unspecified 80)] ∧
    ({ crowded with listeners := crowdedAnew } : Config).validate =
      .error [.badAddress 2 ⟨"nowhere|P", .address⟩, .sameAddress 4 (.v4 .unspecified 80),
        .noConnections 4] ∧
    ((named crowded.validate).map Problem.kind).count .sameAddress +
      (crowded.listeners.filterMap Listener.taken?).dedup.length = 2 := by
  have horder : crowdedAnew.Perm crowded.listeners := by decide
  obtain ⟨_, _, _, _, hcount⟩ := validate_reordered crowded crowdedAnew horder
  refine ⟨horder, by decide, by decide, ?_⟩
  rw [hcount]
  decide

end ProxyGate.Config
