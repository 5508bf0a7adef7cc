import ProxyGate.Sniff.Report

/-!
# Metrics

What the gate counts: the connections it accepted, by policy; the connections that are open; the
searches for a header that ended; and the failures among them, by label.
-/

namespace ProxyGate

/-- The counts so far. -/
structure Metrics where
  /-- Connections accepted where a header is demanded. -/
  required : Nat := 0
  /-- Connections accepted where none is looked for. -/
  disabled : Nat := 0
  /-- Connections that are open. -/
  active : Nat := 0
  /-- Searches for a header that ended. -/
  searches : Nat := 0
  /-- The label of each search that failed, in order. -/
  failures : List String := []
deriving DecidableEq, Repr

namespace Metrics

/-- Counts a connection that was accepted. -/
def opened (metrics : Metrics) : Policy → Metrics
  | .disabled => { metrics with disabled := metrics.disabled + 1, active := metrics.active + 1 }
  | .required => { metrics with required := metrics.required + 1, active := metrics.active + 1 }

/-- Counts a connection that ended. -/
def closed (metrics : Metrics) : Metrics :=
  { metrics with active := metrics.active - 1 }

/-- Counts a search for a header that ended, with the label of its failure if it failed. -/
def searched (metrics : Metrics) (failure : Option String) : Metrics :=
  { metrics with
    searches := metrics.searches + 1
    failures := metrics.failures ++ failure.toList }

/-- The connections accepted under a policy. -/
def accepted (metrics : Metrics) : Policy → Nat
  | .disabled => metrics.disabled
  | .required => metrics.required

/-- A metric's name with its label. -/
def labelled (name label value : String) : String :=
  name ++ "\x7b" ++ label ++ "=" ++ value ++ "\x7d"

/-- The count of accepted connections under a policy, if there are any. -/
def acceptedSample (metrics : Metrics) (policy : Policy) : List (String × Nat) :=
  if metrics.accepted policy = 0 then []
  else [(labelled "proxyline_connections_total" "proxy_protocol" policy.label,
    metrics.accepted policy)]

/-- The count of open connections, if there ever were any. -/
def activeSample (metrics : Metrics) : List (String × Nat) :=
  if metrics.required + metrics.disabled = 0 then []
  else [("proxyline_active_connections", metrics.active)]

/-- The count of ended searches, if there are any. -/
def searchSample (metrics : Metrics) : List (String × Nat) :=
  if metrics.searches = 0 then [] else [("proxyline_sniff_duration_seconds", metrics.searches)]

/-- The counts of failures by label. -/
def failureSamples (metrics : Metrics) : List (String × Nat) :=
  metrics.failures.eraseDups.map fun label =>
    (labelled "proxyline_sniff_failures_total" "reason" label, metrics.failures.count label)

/-- Every metric that has been recorded, with its value. -/
def samples (metrics : Metrics) : List (String × Nat) :=
  metrics.acceptedSample .required ++ metrics.acceptedSample .disabled ++ metrics.activeSample ++
    metrics.searchSample ++ metrics.failureSamples

end Metrics

end ProxyGate
