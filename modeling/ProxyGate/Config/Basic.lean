import ProxyGate.Config.BindAddress
import ProxyGate.Json

/-!
# The configuration

The settings of a gate: its listeners, the time limit for headers, and what it reports of itself.
Every setting has a default, so an empty configuration is a gate with one plain listener.
`Listener.resolve` says what a listener's settings come to.
-/

namespace ProxyGate

namespace Config

/-- The settings of one listener. -/
structure Listener where
  /-- Where to listen; a marker at the end demands headers. -/
  bindAddress : String := "0.0.0.0:8080"
  /-- Whether headers are demanded, marker or not. -/
  proxyProtocol : Bool := false
  /-- The most connections at one time. -/
  maxConnections : Nat := 10000
deriving DecidableEq, Repr

/-- How log lines look. -/
inductive LogFormat where
  | pretty
  | compact
deriving DecidableEq, Repr

/-- The word for a log format. -/
def LogFormat.word : LogFormat → String
  | .pretty => "pretty"
  | .compact => "compact"

/-- The log format that a word names. -/
def LogFormat.ofWord? (word : String) : Option LogFormat :=
  if word = "pretty" then some .pretty
  else if word = "compact" then some .compact
  else none

/-- What the gate reports of itself. -/
structure Observability where
  logLevel : String := "info"
  logFormat : LogFormat := .pretty
  metricsEnabled : Bool := false
  metricsAddress : String := "127.0.0.1:9090"
deriving DecidableEq, Repr

end Config

/-- The settings of a gate. -/
structure Config where
  listeners : List Config.Listener := [{}]
  /-- The time limit for a header, in milliseconds. -/
  headerTimeout : Nat := 5000
  observability : Config.Observability := {}
deriving DecidableEq, Repr

namespace Config

/-! ## Written form -/

/-- A listener's settings in a report. -/
def Listener.json (listener : Listener) : Json :=
  .object [("bind_address", .text listener.bindAddress),
    ("proxy_protocol", .bool listener.proxyProtocol),
    ("max_connections", .nat listener.maxConnections)]

/-- The self-report settings in a report. -/
def Observability.json (observability : Observability) : Json :=
  .object [("log_level", .text observability.logLevel),
    ("log_format", .text observability.logFormat.word),
    ("metrics_enabled", .bool observability.metricsEnabled),
    ("metrics_address", .text observability.metricsAddress)]

/-- A configuration in a report. -/
def json (config : Config) : Json :=
  .object [("listeners", .list (config.listeners.map Listener.json)),
    ("proxy_protocol", .object [("header_timeout_ms", .nat config.headerTimeout)]),
    ("observability", config.observability.json)]

/-! ## What a listener's settings come to -/

/-- A listener with its address read. -/
structure Binding where
  address : Address.Socket
  policy : Policy
  maxConnections : Nat
deriving DecidableEq, Repr

/-- Reads a listener's address; headers are demanded by the setting or by the marker. -/
def Listener.resolve (listener : Listener) : Except BindAddress.Fault Binding :=
  match BindAddress.parse listener.bindAddress with
  | .ok bind =>
    .ok ⟨bind.address, .ofBool (listener.proxyProtocol || bind.marked), listener.maxConnections⟩
  | .error fault => .error fault

/-- The configuration with a plain listener at each of the given addresses in place of its own. -/
def withListeners (config : Config) (addresses : List String) : Config :=
  { config with listeners := addresses.map fun bindAddress => { bindAddress } }

end Config

end ProxyGate
