import ProxyGate.Command.Arguments
import ProxyGate.Command.Detail
import ProxyGate.Server.Startup

/-!
# Launching the gate

`--config` names a configuration file, each `--listen` gives a plain listener that stands in place
of the file's, and `--log-level` overrides the level of the log.  The file must be free of problems
by itself, and so must be what the options make of it.
-/

namespace ProxyGate.Command

/-- The options of the gate. -/
structure LaunchOptions where
  config : Option String := none
  listen : List String := []
  logLevel : Option String := none
deriving DecidableEq, Repr

namespace LaunchOptions

/-- The options that can be given. -/
def specs : List OptionSpec :=
  [{ long := "config", short := some 'c', accepts := fun value => value ≠ "" },
    { long := "listen", short := some 'l', repeats := true },
    { long := "log-level" }]

/-- Reads the options. -/
def parse (arguments : List String) : Except Stop LaunchOptions := do
  let given ← scanAll specs arguments
  return ⟨given.value? "config", given.values "listen", given.value? "log-level"⟩

/-- What the options make of a configuration. -/
def apply (options : LaunchOptions) (config : Config) : Config :=
  let listening := if options.listen = [] then config else config.withListeners options.listen
  match options.logLevel with
  | none => listening
  | some logLevel =>
    { listening with observability := { listening.observability with logLevel } }

/-- The configuration that the gate runs with, given how a file is read. -/
def effective (options : LaunchOptions) (readFile : String → Option Bytes) :
    Except Config.LoadFault Config := do
  let base ←
    match options.config with
    | none => .ok {}
    | some path => Config.load (readFile path)
  (options.apply base).accept

end LaunchOptions

/-- Why the gate does not run. -/
inductive LaunchFault where
  | noConfig (fault : Config.LoadFault)
  | noStart (fault : Server.StartFault)
deriving DecidableEq, Repr

/-- The last words of a gate that does not run. -/
def LaunchFault.lastWords : LaunchFault → String
  | .noConfig fault => "Error: " ++ fault.detail
  | .noStart fault => "Error: " ++ fault.detail

/-- What becomes of a launch. -/
inductive Launch where
  | stopped (stop : Stop)
  | failed (fault : LaunchFault)
  /-- The gate runs with this configuration. -/
  | running (config : Config)
deriving DecidableEq, Repr

namespace Launch

/-- Launches the gate, as far as the arguments and the files decide. -/
def ofArguments (readFile : String → Option Bytes) (arguments : List String) : Launch :=
  match LaunchOptions.parse arguments with
  | .error stop => .stopped stop
  | .ok options =>
    match options.effective readFile with
    | .error fault => .failed (.noConfig fault)
    | .ok config =>
      match Server.bindings config with
      | .error fault => .failed (.noStart fault)
      | .ok _ => .running config

/-- The exit code of a command that stopped at its arguments. -/
def stopCode : Stop → Nat
  | .help => 0
  | .misuse => 2

/-- The exit code of a launch, when the gate runs until it is told to stop. -/
def exitCode : Launch → Nat
  | .stopped stop => stopCode stop
  | .failed _ => 1
  | .running _ => 0

end Launch

end ProxyGate.Command
