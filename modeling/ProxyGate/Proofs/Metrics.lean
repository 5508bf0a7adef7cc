import ProxyGate.Metrics
import Mathlib.Algebra.Ring.Nat

/-!
# What the metrics say

`Metrics.samples` lists every metric that has been recorded under its full name.  `Metrics.value` is
the value that the list has for a name, and the theorems say of each metric that it is the count
that is kept for it: no name hides another.
-/

namespace ProxyGate.Metrics

/-- The value of a metric; one that has not been recorded counts for nothing. -/
def value (metrics : Metrics) (name : String) : Nat :=
  (metrics.samples.lookup name).getD 0

/-- The name under which accepted connections are counted. -/
def connectionsName (policy : Policy) : String :=
  labelled "proxyline_connections_total" "proxy_protocol" policy.label

/-- The name under which failures are counted. -/
def failuresName (label : String) : String :=
  labelled "proxyline_sniff_failures_total" "reason" label

/-- The name under which open connections are counted. -/
def activeName : String := "proxyline_active_connections"

/-- The name under which ended searches are counted. -/
def searchesName : String := "proxyline_sniff_duration_seconds"

/-! ## Names -/

theorem failuresName_inj {label other : String} :
    failuresName label = failuresName other ↔ label = other := by
  rw [failuresName, failuresName, labelled, labelled, String.append_left_inj,
    String.append_right_inj]

/-- The other names differ from those of failures in their first letters. -/
theorem ne_failuresName {name : String}
    (h : name.toList.take 17 ≠ "proxyline_sniff_f".toList) (label : String) :
    name ≠ failuresName label := by
  rintro rfl
  refine h ?_
  rw [failuresName, labelled]
  simp only [String.toList_append, List.append_assoc]
  rfl

/-! ## Counting -/

section Counting

variable (metrics : Metrics) (policy : Policy)

@[simp] theorem accepted_opened (other : Policy) :
    (metrics.opened policy).accepted other =
      metrics.accepted other + (decide (policy = other)).toNat := by
  cases policy <;> cases other <;> rfl

@[simp] theorem searches_opened : (metrics.opened policy).searches = metrics.searches := by
  cases policy <;> rfl

@[simp] theorem failures_opened : (metrics.opened policy).failures = metrics.failures := by
  cases policy <;> rfl

/-- Where no header is demanded, no search ends. -/
theorem searched_of_required :
    (if policy.isRequired then metrics.searched none else metrics).accepted = metrics.accepted ∧
      (if policy.isRequired then metrics.searched none else metrics).searches =
        metrics.searches + (decide (policy = .required)).toNat ∧
      (if policy.isRequired then metrics.searched none else metrics).failures =
        metrics.failures := by
  cases policy with
  | disabled => exact ⟨rfl, rfl, rfl⟩
  | required =>
    refine ⟨?_, rfl, List.append_nil _⟩
    funext other
    cases other <;> rfl

end Counting

/-! ## The list -/

/-- A metric that is listed once it has been recorded, in front of others. -/
theorem lookup_once {α β : Type} [BEq α] [LawfulBEq α] [DecidableEq α] {absent : Prop}
    [Decidable absent] (own name : α) (count : β) (rest : List (α × β)) :
    ((if absent then [] else [(own, count)]) ++ rest).lookup name =
      if name = own ∧ ¬absent then some count else rest.lookup name := by
  by_cases habsent : absent
  · simp [habsent]
  · rw [if_neg habsent, List.singleton_append, List.lookup_cons]
    by_cases hname : name = own
    · simp [habsent, hname]
    · simp [hname, beq_eq_false_iff_ne.mpr hname]

variable (metrics : Metrics)

theorem lookup_samples (name : String) :
    metrics.samples.lookup name =
      if name = connectionsName .required ∧ ¬metrics.required = 0 then some metrics.required
      else if name = connectionsName .disabled ∧ ¬metrics.disabled = 0 then some metrics.disabled
      else if name = activeName ∧ ¬metrics.required + metrics.disabled = 0 then some metrics.active
      else if name = searchesName ∧ ¬metrics.searches = 0 then some metrics.searches
      else metrics.failureSamples.lookup name := by
  rw [samples, acceptedSample, acceptedSample, activeSample, searchSample, List.append_assoc,
    List.append_assoc, List.append_assoc, lookup_once, lookup_once, lookup_once, lookup_once]
  rfl

theorem lookup_failureSamples (label : String) :
    metrics.failureSamples.lookup (failuresName label) =
      if label ∈ metrics.failures then some (metrics.failures.count label) else none := by
  have hlisted : label ∈ metrics.failures ↔ label ∈ metrics.failures.eraseDups :=
    List.mem_eraseDups.symm
  rw [failureSamples, if_congr hlisted rfl rfl]
  induction metrics.failures.eraseDups with
  | nil => rfl
  | cons first rest ih =>
    rw [List.map_cons, List.lookup_cons, ih]
    by_cases hsame : label = first
    · simp [hsame, failuresName]
    · have hname : (failuresName label ==
          labelled "proxyline_sniff_failures_total" "reason" first) = false :=
        beq_eq_false_iff_ne.mpr fun h => hsame (failuresName_inj.mp h)
      simp [hname, hsame]

/-- Other names than those of failures are not among them. -/
theorem lookup_failureSamples_of_ne {name : String}
    (h : name.toList.take 17 ≠ "proxyline_sniff_f".toList) :
    metrics.failureSamples.lookup name = none := by
  rw [List.lookup_eq_none_iff]
  intro sample hmem
  obtain ⟨label, _, rfl⟩ := List.mem_map.mp hmem
  exact bne_iff_ne.mpr (ne_failuresName h label)

/-! ## Values -/

theorem value_connectionsName (policy : Policy) :
    metrics.value (connectionsName policy) = metrics.accepted policy := by
  rw [value, lookup_samples, lookup_failureSamples_of_ne metrics (by cases policy <;> decide)]
  cases policy with
  | required =>
    rw [accepted]
    by_cases hnone : metrics.required = 0 <;> simp +decide [hnone]
  | disabled =>
    rw [accepted]
    by_cases hnone : metrics.disabled = 0 <;> simp +decide [hnone]

/-- A connection can only be open where one was accepted. -/
theorem value_activeName (h : metrics.required + metrics.disabled = 0 → metrics.active = 0) :
    metrics.value activeName = metrics.active := by
  rw [value, lookup_samples, lookup_failureSamples_of_ne metrics (by decide)]
  by_cases hnone : metrics.required + metrics.disabled = 0
  · simp +decide [hnone, h hnone]
  · simp +decide only [hnone]
    rfl

theorem value_searchesName : metrics.value searchesName = metrics.searches := by
  rw [value, lookup_samples, lookup_failureSamples_of_ne metrics (by decide)]
  by_cases hnone : metrics.searches = 0 <;> simp +decide [hnone]

theorem value_failuresName (label : String) :
    metrics.value (failuresName label) = metrics.failures.count label := by
  have hname : ∀ name : String, name.toList.take 17 ≠ "proxyline_sniff_f".toList →
      failuresName label ≠ name := fun name h => (ne_failuresName h label).symm
  rw [value, lookup_samples, if_neg fun h => hname _ (by decide) h.1,
    if_neg fun h => hname _ (by decide) h.1, if_neg fun h => hname _ (by decide) h.1,
    if_neg fun h => hname _ (by decide) h.1, lookup_failureSamples]
  split
  · rfl
  · rename_i hnone
    exact (List.count_eq_zero.mpr hnone).symm

/-- Counting each item that occurs counts all of them. -/
theorem sum_count_eraseDups {α : Type} [DecidableEq α] (items : List α) :
    (items.eraseDups.map items.count).sum = items.length := by
  match items with
  | [] => rfl
  | first :: rest =>
    -- What is equal to the first is counted with it, and the others as if it were not there.
    let others := rest.filter fun item => !item == first
    have hothers :
        others.eraseDups.map (first :: rest).count = others.eraseDups.map others.count := by
      refine List.map_congr_left fun item hmem => ?_
      have hitem := (List.mem_filter.mp (List.mem_eraseDups.mp hmem)).2
      have hne : first ≠ item := by
        rintro rfl
        simp at hitem
      rw [List.count_cons_of_ne hne]
      exact (List.count_filter (p := fun item => !item == first) hitem).symm
    have hsum : (others.eraseDups.map others.count).sum = others.length :=
      sum_count_eraseDups others
    have hlength : rest.length = rest.count first + others.length := by
      rw [rest.length_eq_countP_add_countP (· == first), ← List.countP_eq_length_filter]
      exact congrArg _ (List.countP_congr fun item _ => by simp)
    rw [List.eraseDups_cons, List.map_cons, List.sum_cons, hothers, hsum, List.count_cons_self,
      List.length_cons, hlength, Nat.add_right_comm]
termination_by items.length
decreasing_by exact Nat.lt_succ_of_le (List.length_filter_le _ _)

/-- The counts of all labels are together the number of failures. -/
theorem sum_failureSamples :
    (metrics.failureSamples.map Prod.snd).sum = metrics.failures.length := by
  rw [failureSamples, List.map_map]
  exact sum_count_eraseDups metrics.failures

end ProxyGate.Metrics
