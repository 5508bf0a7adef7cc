import ProxyGate.Config.Basic
import ProxyGate.Toml.Value

/-!
# A configuration from its TOML table

Each structure of the configuration is read from a table by the names of its settings, or from a
list by their places.  A setting that is absent has its default, also when its neighbours are there;
names that the structure does not know and items beyond its last place mean nothing.  A setting that
is there must have the right kind of value.
-/

namespace ProxyGate.Config

open Toml (Value Table)

/-- Where the settings of one structure stand. -/
inductive Settings where
  | named (table : Table)
  | placed (items : List Value)

namespace Settings

/-- The settings that a value holds.  A moment is a structure of its own, which no setting is named
after. -/
def ofValue? : Value → Option Settings
  | .table _ entries => some (.named entries)
  | .moment _ => some (.named [])
  | .list items => some (.placed items)
  | .tables earlier last => some (.placed ((earlier ++ [last]).map (.table .header)))
  | .text _ | .integer _ | .float _ | .bool _ => none

/-- The value of a setting, known by its name and its place. -/
def get? (settings : Settings) (name : String) (place : Nat) : Option Value :=
  match settings with
  | .named table => table.get? name
  | .placed items => items[place]?

/-- Reads a setting; an absent one has its default. -/
def read? {α : Type} (settings : Settings) (name : String) (place : Nat)
    (decode? : Value → Option α) (default : α) : Option α :=
  match settings.get? name place with
  | none => some default
  | some value => decode? value

end Settings

/-! ## Kinds of values -/

/-- A text. -/
def text? : Value → Option String
  | .text value => some value
  | _ => none

/-- A truth value. -/
def bool? : Value → Option Bool
  | .bool value => some value
  | _ => none

/-- A number that is not negative. -/
def nat? : Value → Option Nat
  | .integer (.ofNat value) => some value
  | _ => none

/-- The items of a list. -/
def items? : Value → Option (List Value)
  | .list items => some items
  | .tables earlier last => some ((earlier ++ [last]).map (.table .header))
  | _ => none

/-- Whether a value is a list or a table with nothing in it. -/
def isEmpty : Value → Bool
  | .list items => items.isEmpty
  | .table _ entries => entries.isEmpty
  | _ => false

/-- A log format: its word, or a table whose one key is the word and whose value is empty. -/
def logFormat? : Value → Option LogFormat
  | .text word => LogFormat.ofWord? word
  | .table _ [(word, value)] => if isEmpty value then LogFormat.ofWord? word else none
  | _ => none

/-! ## Structures -/

/-- Reads one listener. -/
def Listener.ofValue? (value : Value) : Option Listener := do
  let settings ← Settings.ofValue? value
  let default : Listener := {}
  return {
    bindAddress := ← settings.read? "bind_address" 0 text? default.bindAddress
    proxyProtocol := ← settings.read? "proxy_protocol" 1 bool? default.proxyProtocol
    maxConnections := ← settings.read? "max_connections" 2 nat? default.maxConnections }

/-- Reads the list of listeners. -/
def listeners? (value : Value) : Option (List Listener) := do
  (← items? value).mapM Listener.ofValue?

/-- Reads the settings for headers: the time limit. -/
def headerTimeout? (value : Value) : Option Nat := do
  let settings ← Settings.ofValue? value
  settings.read? "header_timeout_ms" 0 nat? ({} : Config).headerTimeout

/-- Reads the settings for self-reports. -/
def Observability.ofValue? (value : Value) : Option Observability := do
  let settings ← Settings.ofValue? value
  let default : Observability := {}
  return {
    logLevel := ← settings.read? "log_level" 0 text? default.logLevel
    logFormat := ← settings.read? "log_format" 1 logFormat? default.logFormat
    metricsEnabled := ← settings.read? "metrics_enabled" 2 bool? default.metricsEnabled
    metricsAddress := ← settings.read? "metrics_address" 3 text? default.metricsAddress }

/-- Reads a configuration. -/
def ofTable? (table : Table) : Option Config := do
  let settings := Settings.named table
  let default : Config := {}
  return {
    listeners := ← settings.read? "listeners" 0 listeners? default.listeners
    headerTimeout := ← settings.read? "proxy_protocol" 1 headerTimeout? default.headerTimeout
    observability :=
      ← settings.read? "observability" 2 Observability.ofValue? default.observability }

end ProxyGate.Config
