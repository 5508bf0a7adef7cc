/-!
# Log entries

What the gate reports as it runs: a level, a fixed message, and named texts.
-/

namespace ProxyGate.Log

/-- How much an entry matters. -/
inductive Level where
  | trace
  | debug
  | info
  | warn
  | error
deriving DecidableEq, Repr

/-- The name of a level. -/
def Level.name : Level → String
  | .trace => "TRACE"
  | .debug => "DEBUG"
  | .info => "INFO"
  | .warn => "WARN"
  | .error => "ERROR"

/-- Every level, the least important first. -/
def Level.all : List Level := [.trace, .debug, .info, .warn, .error]

/-- The level that a word names, in letters of either case. -/
def Level.ofWord? (word : String) : Option Level :=
  Level.all.find? fun level => level.name = word.toUpper

/-- Whether entries of a level are shown by a log that shows those from a lowest level on. -/
def Level.isShown (lowest level : Level) : Bool :=
  (Level.all.dropWhile (· ≠ lowest)).contains level

/-- One entry of the log. -/
structure Entry where
  level : Level
  message : String
  fields : List (String × String)
deriving DecidableEq, Repr

/-- An entry as one line of text. -/
def Entry.line (entry : Entry) : String :=
  let field : String × String → String := fun (name, value) => " " ++ name ++ "=" ++ value
  entry.level.name ++ " " ++ entry.message ++ String.join (entry.fields.map field)

/-- The filter that a configured level stands for: the gate's own entries and those of its HTTP
requests. -/
def filterFor (level : String) : String :=
  "proxyline=" ++ level ++ ",tower_http=" ++ level

end ProxyGate.Log
