import ProxyGate.Config.Decode
import ProxyGate.Config.Problem
import ProxyGate.Text.Bytes
import ProxyGate.Toml.Document

/-!
# Loading a configuration

From a file to a configuration that nothing is wrong with, in three steps, each with its own way to
fail: the file must be there and hold text, the text must be a TOML document of the right shape, and
the configuration must have no problems.
-/

namespace ProxyGate.Config

/-- Why a file gives no text. -/
inductive FileFault where
  | missing
  | notText
deriving DecidableEq, Repr

/-- The words for a file fault. -/
def FileFault.message : FileFault → String
  | .missing => "No such file or directory (os error 2)"
  | .notText => "stream did not contain valid UTF-8"

/-- Why there is no configuration. -/
inductive LoadFault where
  | file (fault : FileFault)
  /-- The text is no document of the right shape. -/
  | shape
  | invalid (problems : List Problem)
deriving DecidableEq, Repr

namespace LoadFault

/-- The sentence that reports problems. -/
def problemsMessage (problems : List Problem) : String :=
  "Validation failed: " ++ ", ".intercalate (problems.map Problem.message)

/-- The sentence that reports why there is no configuration.  It does not say where a text went
wrong. -/
def message : LoadFault → String
  | .file fault => "IO error: " ++ fault.message
  | .shape => "Parse error"
  | .invalid problems => problemsMessage problems

end LoadFault

/-- Reads a configuration from a text, problems or none. -/
def decode? (source : String) : Option Config := do
  ofTable? (← Toml.parse? source)

/-- Accepts a configuration that has no problems. -/
def accept (config : Config) : Except LoadFault Config :=
  match config.validate with
  | .ok () => .ok config
  | .error problems => .error (.invalid problems)

/-- Reads a configuration that has no problems from a text. -/
def parse (source : String) : Except LoadFault Config :=
  match decode? source with
  | none => .error .shape
  | some config => config.accept

/-- Reads a configuration from the content of a file, or from a file that is missing. -/
def load : Option Bytes → Except LoadFault Config
  | none => .error (.file .missing)
  | some content =>
    match Bytes.text? content with
    | none => .error (.file .notText)
    | some source => parse source

end ProxyGate.Config
