/-!
# Command-line arguments

Options come as `--name value`, `--name=value`, `-n value`, `-nvalue` or `-n=value`.  A value on its
own must not look like an option.  `scan` takes options off the front, up to the first argument that
is none or the mark `--`, and gives up at the first that is wrong or asks for help.
-/

namespace ProxyGate.Command

/-- An option that takes a value. -/
structure OptionSpec where
  long : String
  short : Option Char := none
  /-- Whether the option may be given more than once. -/
  repeats : Bool := false
  /-- Which values it takes. -/
  accepts : String → Bool := fun _ => true

/-- Why the arguments lead to nothing being done. -/
inductive Stop where
  /-- They ask for help. -/
  | help
  /-- They are wrong. -/
  | misuse
deriving DecidableEq, Repr

/-- The values that were given to options, in order. -/
abbrev Given := List (String × String)

/-- The values that were given to one option. -/
def Given.values (given : Given) (long : String) : List String :=
  (given.filter (·.1 = long)).map (·.2)

/-- The value that was given to an option that is not repeated. -/
def Given.value? (given : Given) (long : String) : Option String :=
  (given.values long).head?

/-- What `scan` leaves. -/
structure Remainder where
  /-- The arguments from the first that is no option. -/
  arguments : List String
  /-- Whether the mark `--` stood in front of them. -/
  isEscaped : Bool
deriving DecidableEq, Repr

/-- Whether an argument looks like an option. -/
def looksLikeOption (argument : String) : Bool :=
  match argument.toList with
  | '-' :: _ :: _ => true
  | _ => false

/-- The name of a long option, and the value behind an equals sign. -/
def cutEquals (text : List Char) : String × Option String :=
  match text.dropWhile (· ≠ '=') with
  | [] => (String.ofList text, none)
  | _ :: value => (String.ofList (text.takeWhile (· ≠ '=')), some (String.ofList value))

/-- The value that stands right behind the letter of a short option. -/
def attached : List Char → Option String
  | [] => none
  | '=' :: value => some (String.ofList value)
  | value => some (String.ofList value)

/-- The option that an argument names, with the value in the same argument if there is one. -/
def readOption (specs : List OptionSpec) (argument : List Char) :
    Except Stop (OptionSpec × Option String) :=
  match argument with
  | '-' :: '-' :: text =>
    let (name, value) := cutEquals text
    if name = "help" then .error (if value.isNone then .help else .misuse)
    else
      match specs.find? (·.long = name) with
      | some spec => .ok (spec, value)
      | none => .error .misuse
  | '-' :: letter :: text =>
    if letter = 'h' then .error .help
    else
      match specs.find? (·.short = some letter) with
      | some spec => .ok (spec, attached text)
      | none => .error .misuse
  | _ => .error .misuse

/-- Adds a value that was given to an option. -/
def give (given : Given) (spec : OptionSpec) (value : String) : Except Stop Given :=
  if spec.accepts value ∧ (spec.repeats ∨ (given.value? spec.long).isNone) then
    .ok (given ++ [(spec.long, value)])
  else .error .misuse

/-- Takes options off the front of the arguments. -/
def scan (specs : List OptionSpec) (given : Given) : List String → Except Stop (Given × Remainder)
  | [] => .ok (given, ⟨[], false⟩)
  | argument :: rest =>
    if argument = "--" then .ok (given, ⟨rest, true⟩)
    else if looksLikeOption argument then
      match readOption specs argument.toList with
      | .error stop => .error stop
      | .ok (spec, some value) =>
        match give given spec value with
        | .error stop => .error stop
        | .ok given => scan specs given rest
      | .ok (spec, none) =>
        match rest with
        | [] => .error .misuse
        | value :: rest =>
          if looksLikeOption value then .error .misuse
          else
            match give given spec value with
            | .error stop => .error stop
            | .ok given => scan specs given rest
    else .ok (given, ⟨argument :: rest, false⟩)

/-- Takes options that nothing may stand behind. -/
def scanAll (specs : List OptionSpec) (arguments : List String) : Except Stop Given :=
  match scan specs [] arguments with
  | .error stop => .error stop
  | .ok (given, remainder) => if remainder.arguments = [] then .ok given else .error .misuse

/-- Takes exactly one argument that is no option. -/
def scanOne (arguments : List String) : Except Stop String :=
  match scan [] [] arguments with
  | .error stop => .error stop
  | .ok (_, ⟨[], _⟩) => .error .misuse
  | .ok (_, ⟨argument :: rest, isEscaped⟩) =>
    if isEscaped then
      if rest = [] then .ok argument else .error .misuse
    else
      match scanAll [] rest with
      | .error stop => .error stop
      | .ok _ => .ok argument

end ProxyGate.Command
