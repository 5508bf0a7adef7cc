import ProxyGate.Host.Gate
import ProxyGate.Host.Probe

/-!
# The command line

Without a subcommand, the gate itself: `--config`, `--listen` and `--log-level` say how it runs.
With `probe` as its first argument, a probe of a running gate.
-/

namespace ProxyGate

/-- How the gate is used. -/
def gateUsage : String :=
  "usage: proxygate [--config FILE] [--listen ADDRESS]... [--log-level LEVEL]"

/-- How a probe is used. -/
def probeUsage : String :=
  "usage: proxygate probe [--addr ADDRESS] [--path PATH] " ++
    "(send --source ADDRESS --destination ADDRESS | raw LINE | plain)"

/-- Ends a command at its arguments. -/
def stopWith (usage : String) (stop : Command.Stop) : IO UInt32 := do
  match stop with
  | .help => IO.println usage
  | .misuse => IO.eprintln usage
  return (Command.Launch.stopCode stop).toUInt32

/-- The content of a file, if it is there. -/
def readFile? (path : String) : IO (Option Bytes) := do
  try
    return some (← IO.FS.readBinFile path).toList
  catch _ => return none

/-- Runs the gate with its arguments. -/
def runGate (arguments : List String) : IO UInt32 := do
  match Command.LaunchOptions.parse arguments with
  | .error stop => stopWith gateUsage stop
  | .ok options =>
    let content ←
      match options.config with
      | none => pure none
      | some path => readFile? path
    match Command.Launch.ofArguments (fun _ => content) arguments with
    | .stopped stop => stopWith gateUsage stop
    | .failed fault =>
      IO.eprintln fault.lastWords
      return 1
    | .running config => Host.run config

/-- Runs a probe with its arguments. -/
def runProbe (arguments : List String) : IO UInt32 := do
  match Command.Probe.parse arguments with
  | .error stop => stopWith probeUsage stop
  | .ok probe => Host.runProbe probe

end ProxyGate

/-- Runs the gate or a probe. -/
def main (arguments : List String) : IO UInt32 :=
  match arguments with
  | "probe" :: rest => ProxyGate.runProbe rest
  | _ => ProxyGate.runGate arguments
