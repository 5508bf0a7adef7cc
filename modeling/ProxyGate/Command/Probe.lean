import ProxyGate.Command.Arguments
import ProxyGate.Json.Reader
import ProxyGate.Server.Scenario
import ProxyGate.Text.Blank
import ProxyGate.Text.Record

/-!
# Probing a gate

A probe connects to a gate, sends a header of its choice and one HTTP request, and shows what it
sent and what came back.  The header is built from two socket addresses (`send`), given as a line
(`raw`) or left out (`plain`).
-/

namespace ProxyGate.Command

open Server (Scene)

/-- What a probe sends in front of its request. -/
inductive Opening where
  | header (source destination : Address.Socket)
  | line (text : String)
  | nothing
deriving DecidableEq, Repr

/-- A probe. -/
structure Probe where
  /-- The address to connect to, as given. -/
  address : String := "127.0.0.1:8080"
  /-- The target of the request. -/
  path : String := "/"
  opening : Opening
deriving DecidableEq, Repr

namespace Probe

/-! ## Arguments -/

/-- The options in front of the subcommand. -/
def specs : List OptionSpec :=
  [{ long := "addr", short := some 'a' }, { long := "path", short := some 'p' }]

/-- An option whose value is a socket address. -/
def socketSpec (long : String) : OptionSpec :=
  { long, accepts := fun value => (Address.Socket.ofText? value).isSome }

/-- Reads the arguments of `send`. -/
def parseSend (arguments : List String) : Except Stop Opening := do
  let given ← scanAll [socketSpec "source", socketSpec "destination"] arguments
  let address? (long : String) := (given.value? long).bind Address.Socket.ofText?
  match address? "source", address? "destination" with
  | some source, some destination => .ok (.header source destination)
  | _, _ => .error .misuse

/-- The names of the subcommands. -/
def subcommands : List String := ["send", "raw", "plain", "help"]

/-- Reads a subcommand with its arguments. -/
def parseOpening : List String → Except Stop Opening
  | "send" :: arguments => parseSend arguments
  | "raw" :: arguments => Opening.line <$> scanOne arguments
  | "plain" :: arguments => (fun _ => Opening.nothing) <$> scanAll [] arguments
  | ["help"] => .error .help
  | ["help", name] => .error (if name ∈ subcommands then .help else .misuse)
  | _ => .error .misuse

/-- Reads the arguments of a probe. -/
def parse (arguments : List String) : Except Stop Probe := do
  let (given, remainder) ← scan specs [] arguments
  if remainder.isEscaped then .error .misuse
  else
    let probe : Probe := { opening := ← parseOpening remainder.arguments }
    return { probe with
      address := (given.value? "addr").getD probe.address
      path := (given.value? "path").getD probe.path }

/-! ## What is sent -/

/-- A text, given backwards, without the line ends at its end. -/
def dropLineEnds : List Char → List Char
  | '\n' :: '\r' :: rest => dropLineEnds rest
  | rest => rest

/-- A text without the line ends at its end. -/
def trimLineEnds (text : List Char) : List Char :=
  (dropLineEnds text.reverse).reverse

/-- The bytes in front of the request; none when the two addresses are of different versions. -/
def openingBytes? : Opening → Option Bytes
  | .header source destination => (Header.between? source destination).map Header.wire
  | .line text => some (Bytes.ofText (String.ofList (trimLineEnds text.toList)) ++ Bytes.crlf)
  | .nothing => some []

/-- The complaint about two addresses of different versions. -/
def mixedComplaint : String :=
  "Error: " ++ Text.quote "source and destination must both be IPv4 or both be IPv6"

/-- The request of a probe; there is none when the path cannot be a target. -/
def requestBytes? (probe : Probe) : Option Bytes :=
  (Http.Target.ofText? probe.path).map fun target =>
    Bytes.ofText ("GET " ++ target.text ++ " HTTP/1.1\r\nhost: " ++ probe.address ++ "\r\n\r\n")

/-! ## What is shown -/

/-- One thing that a probe prints. -/
inductive Printed where
  /-- A line of text. -/
  | line (text : String)
  /-- A report, its members in the order of their names. -/
  | report (content : Json)

/-- The text of what is printed. -/
def Printed.text : Printed → String
  | .line text => text ++ "\n"
  | .report content => content.sorted.pretty ++ "\n"

/-- How a probe went. -/
structure Result where
  exitCode : Nat
  printed : List Printed := []
  /-- The complaint about what was asked for, if that is why the probe failed. -/
  complaint : Option String := none

/-- What is printed of the bytes that were sent in front of the request. -/
def openingPrinted (opening : Bytes) : List Printed :=
  if opening = [] then []
  else
    let text := (Bytes.text? opening).getD ""
    [.line ("> " ++ String.ofList (Text.trimEnd text.toList))]

/-- What is printed of a response: its status, and its content as a report if it is one. -/
def replyPrinted (status : Nat) (reason body : String) : List Printed :=
  [.line ("< " ++ Text.numeral status ++ " " ++ reason),
    match Json.parse? body with
    | some content => .report content
    | none => .line body]

/-! ## Running -/

/-- The result of a probe whose two addresses are of different versions. -/
def mixed : Result := { exitCode := 1, complaint := some mixedComplaint }

/-- The result of a probe that could not connect. -/
def unconnected : Result := { exitCode := 1 }

/-- The result of a probe that got no response. -/
def unanswered (opening : Bytes) : Result :=
  { exitCode := 1, printed := openingPrinted opening }

/-- The result of a probe that got a response. -/
def answered (opening : Bytes) (status : Nat) (reason body : String) : Result :=
  { exitCode := if 200 ≤ status ∧ status < 300 then 0 else 1
    printed := openingPrinted opening ++ replyPrinted status reason body }

/-- The result of a probe that may have got a response. -/
def resultOf (opening : Bytes) : Option Http.Response → Result
  | none => unanswered opening
  | some response => answered opening response.status response.reason response.body

/-- Sends what a connected probe sends, and waits for the response. -/
def converse (scene : Scene) (client : Nat) (probe : Probe) (opening : Bytes) : Result × Scene :=
  let (_, opened) := scene.step (.send client opening)
  match probe.requestBytes? with
  | none => (unanswered opening, (opened.step (.close client)).2)
  | some request =>
    let (_, asked) := opened.step (.send client request)
    match asked.step (.receive client) with
    | (.response response, later) => (resultOf opening response, (later.step (.close client)).2)
    | (_, later) => (unanswered opening, (later.step (.close client)).2)

/-- Runs a probe against a listener. -/
def run (scene : Scene) (listener : Nat) (probe : Probe) : Result × Scene :=
  match openingBytes? probe.opening with
  | none => (mixed, scene)
  | some opening =>
    match scene.step (.connect listener) with
    | (.connected client, connected) => converse connected client probe opening
    | (_, same) => (unconnected, same)

/-- Runs a probe with its arguments; wrong arguments end it before it connects. -/
def runArguments (scene : Scene) (listener : Nat) (arguments : List String) : Result × Scene :=
  match parse arguments with
  | .error .help => ({ exitCode := 0 }, scene)
  | .error .misuse => ({ exitCode := 2 }, scene)
  | .ok probe => probe.run scene listener

/-- Runs probes one after the other, each against the listener beside it. -/
def runAll (scene : Scene) : List (Nat × List String) → List Result × Scene
  | [] => ([], scene)
  | (listener, arguments) :: rest =>
    let (result, next) := runArguments scene listener arguments
    let (results, last) := runAll next rest
    (result :: results, last)

end Probe

end ProxyGate.Command
