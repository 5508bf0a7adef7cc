import ProxyGate.Config.Basic

/-!
# What is wrong with a configuration

`Config.problems` lists everything about a well-formed configuration that would keep the gate from
running as it says: first what concerns the listeners, in their order, then the other settings.  A
configuration is accepted when the list is empty.
-/

namespace ProxyGate.Config

/-- The most connections that a listener can be limited to. -/
def slotLimit : Nat := 2305843009213693951

/-- One thing wrong with a configuration. -/
inductive Problem where
  | noListeners
  /-- A listener's address cannot be read. -/
  | badAddress (index : Nat) (fault : BindAddress.Fault)
  /-- An earlier listener has the same address. -/
  | sameAddress (index : Nat) (address : Address.Socket)
  /-- A listener admits no connection. -/
  | noConnections (index : Nat)
  /-- A listener's limit is beyond `slotLimit`. -/
  | tooManyConnections (index : Nat)
  /-- No time is left for a header. -/
  | noHeaderTime
  /-- Metrics are wanted, but their address cannot be read. -/
  | badMetricsAddress (text : String)
deriving DecidableEq, Repr

namespace Problem

/-- The listener that a problem concerns. -/
def index? : Problem → Option Nat
  | .badAddress index _ | .sameAddress index _ | .noConnections index
  | .tooManyConnections index => some index
  | .noListeners | .noHeaderTime | .badMetricsAddress _ => none

/-- A number in a message. -/
def number (value : Nat) : String :=
  String.ofList (Text.decimal value)

/-- The sentence that reports a problem. -/
def message : Problem → String
  | .noListeners => "no listeners configured"
  | .badAddress index fault => "listener " ++ number index ++ ": " ++ fault.message
  | .sameAddress index address =>
    "listener " ++ number index ++ ": address " ++ address.text ++
      " is already used by another listener"
  | .noConnections index =>
    "listener " ++ number index ++ ": max_connections must be greater than 0"
  | .tooManyConnections index =>
    "listener " ++ number index ++ ": max_connections must be at most " ++ number slotLimit
  | .noHeaderTime => "proxy_protocol.header_timeout_ms must be greater than 0"
  | .badMetricsAddress text => "invalid metrics address " ++ Text.quote text

end Problem

/-- What is wrong with a listener's address, after listeners that took the addresses `seen`, and the
addresses taken then.  Port zero asks for a fresh port and takes none. -/
def addressProblems (seen : List Address.Socket) (index : Nat) (listener : Listener) :
    List Problem × List Address.Socket :=
  match listener.resolve with
  | .error fault => ([.badAddress index fault], seen)
  | .ok binding =>
    if binding.address.port = 0 then ([], seen)
    else if binding.address ∈ seen then ([.sameAddress index binding.address], seen)
    else ([], binding.address :: seen)

/-- What is wrong with a listener's limit. -/
def limitProblems (index : Nat) (listener : Listener) : List Problem :=
  if listener.maxConnections = 0 then [.noConnections index]
  else if slotLimit < listener.maxConnections then [.tooManyConnections index]
  else []

/-- What is wrong with the listeners from an index on. -/
def listenerProblems (seen : List Address.Socket) (index : Nat) : List Listener → List Problem
  | [] => []
  | listener :: rest =>
    let (problems, taken) := addressProblems seen index listener
    problems ++ limitProblems index listener ++ listenerProblems taken (index + 1) rest

/-- What is wrong with the address for metrics. -/
def metricsProblems (observability : Observability) : List Problem :=
  if observability.metricsEnabled ∧ Address.Socket.ofText? observability.metricsAddress = none then
    [.badMetricsAddress observability.metricsAddress]
  else []

/-- Everything that is wrong with a configuration. -/
def problems (config : Config) : List Problem :=
  (if config.listeners = [] then [.noListeners] else []) ++
    listenerProblems [] 0 config.listeners ++
    (if config.headerTimeout = 0 then [.noHeaderTime] else []) ++
    metricsProblems config.observability

/-- Accepts a configuration that nothing is wrong with. -/
def validate (config : Config) : Except (List Problem) Unit :=
  if config.problems = [] then .ok () else .error config.problems

end ProxyGate.Config
