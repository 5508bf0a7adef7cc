import ProxyGate.Http.Session
import ProxyGate.Server.Step

/-!
# A server with its clients

A scenario is a list of things that clients on the same host do, one at a time, with what they see
of it.  After each of them the server does all that it can do at once: it accepts, looks for
headers, answers the requests that have come, and cleans up.  Time passes only while a client waits
for an answer that does not come, and then every header that is still awaited runs out of time.
-/

namespace ProxyGate.Server

open ProxyGate.Stream (Duplex Replay)

/-! ## The handler -/

/-- The bytes that a handler got. -/
def received (answers : List Stream.Answer) : Bytes :=
  answers.flatMap fun
    | .data bytes => bytes
    | _ => []

/-- Whether a handler has seen the end of its stream. -/
def sawEnd (answers : List Stream.Answer) : Bool :=
  answers.any fun
    | .data bytes => bytes = []
    | .failed _ => true
    | _ => false

/-- What the handler sends on a connection. -/
def sent (visit : Visit) : Http.Exchange :=
  match visit.stage with
  | .serving _ origin _ | .over _ (.served origin _) _ _ =>
    Http.exchange (Http.answer (some origin)) (received visit.answers)
  | _ => ⟨[], false⟩

/-- The room for one read of the handler. -/
def readRoom : Nat := 4096

/-- What the handler does next: it reads until the exchange or the stream is at its end. -/
def handlerEvent (client : Nat) (visit : Visit) : Event :=
  if (sent visit).closed || sawEnd visit.answers then .finish client .normal
  else .use client (.read readRoom)

/-! ## The server on its own -/

/-- What a server may do next for a client. -/
def clientEvents (client : Nat) (visit : Visit) : List Event :=
  match visit.stage with
  | .waiting _ | .refused => []
  | .sniffing _ _ => [.look client]
  | .serving _ _ _ => [handlerEvent client visit]
  | .over _ _ _ _ => [.dropGuard client, .giveBack client]

/-- What a server may do next for a listener. -/
def listenerEvents (listener : Nat) : List Event :=
  [.stop listener, .claim listener, .accept listener]

/-- What a server may do next, the most urgent first. -/
def ownEvents (server : Server) : List Event :=
  (List.range server.listeners.length).flatMap listenerEvents ++
    server.visits.zipIdx.flatMap (fun (visit, client) => clientEvents client visit) ++
    (if server.signal.isOver then [.leave] else [])

/-- The most that a server can do for a client with what has come from it: one event for each byte
and each step, and a few to accept it and to clean up. -/
def workFor (visit : Visit) : Nat :=
  let script : Stream.Script :=
    match visit.stage with
    | .waiting transport => transport.inlet
    | .sniffing _ progress => progress.source.inlet
    | .serving _ _ stream => .data stream.held :: stream.inner.inlet
    | .refused | .over _ _ _ _ => []
  let size : Stream.Step → Nat
    | .data bytes => bytes.length + 1
    | _ => 1
  (script.map size).foldr (· + ·) 0 + Header.maxLength + 8

/-- The most that a server can do on its own. -/
def work (server : Server) : Nat :=
  (server.visits.map workFor).foldr (· + ·) 0 +
    3 * (server.visits.length + server.listeners.length) + 1

/-- Does up to so many things that the server can do on its own. -/
def settleFor : Nat → Server → Server
  | 0, server => server
  | count + 1, server =>
    match (ownEvents server).findSome? server.step? with
    | some next => settleFor count next
    | none => server

/-- Does all that the server can do on its own. -/
def settle (server : Server) : Server := settleFor server.work server

/-- The server after an event, if that was possible, and after all that it can do then. -/
def after (server : Server) (event : Event) : Server :=
  settle ((server.step? event).getD server)

/-- Lets every header that is still awaited run out of time. -/
def expire (server : Server) : Server :=
  settle { server with
    visits := server.visits.map fun visit =>
      match visit.stage with
      | .sniffing _ _ => { visit with stage := visit.stage.mapTransport (·.push .stall) }
      | _ => visit }

/-! ## The clients -/

/-- What a client does. -/
inductive Action where
  | connect (listener : Nat)
  | send (connection : Nat) (bytes : Bytes)
  /-- Ends the client's data. -/
  | halfClose (connection : Nat)
  | close (connection : Nat)
  | reset (connection : Nat)
  /-- Waits for the next response. -/
  | receive (connection : Nat)
  /-- Waits for all responses and the end of the connection. -/
  | receiveAll (connection : Nat)
  /-- Triggers the shutdown and waits for the server to end. -/
  | shutdown
deriving DecidableEq, Repr

/-- What a client sees. -/
inductive Observation where
  | connected (connection : Nat)
  | refused
  | done
  /-- The connection was closed or never opened. -/
  | noConnection
  /-- The next response, or none when the server closes. -/
  | response (response : Option Http.Response)
  | responses (responses : List Http.Response)
  /-- Whether this shutdown was the one that stopped the server. -/
  | stopped (value : Bool)
deriving DecidableEq, Repr

/-- A client's end of a connection. -/
structure Correspondent where
  isOpen : Bool := true
  /-- The responses that the client has taken. -/
  taken : Nat := 0
deriving DecidableEq, Repr

/-- A server with its clients. -/
structure Scene where
  server : Server
  /-- The clients, with the server's numbers. -/
  clients : List Correspondent := []

namespace Scene

/-- The address of a client on the same host. -/
def peer : Address.Socket := .v4 ⟨127, 0, 0, 1⟩ 0

/-- The reason for which reading a connection fails that its client has reset. -/
def resetReason : String := "Connection reset by peer (os error 104)"

/-- The responses of the server that a client has not taken. -/
def pending (scene : Scene) (client : Nat) (correspondent : Correspondent) : List Http.Response :=
  match scene.server.visits[client]? with
  | some visit => (sent visit).responses.drop correspondent.taken
  | none => []

/-- Whether the server has closed a connection. -/
def isClosed (scene : Scene) (client : Nat) : Bool :=
  match scene.server.visits[client]? with
  | some visit => visit.stage.isEnded
  | none => true

/-- The scene after something has come from a client. -/
def arrive (scene : Scene) (client : Nat) (step : Stream.Step) : Scene :=
  { scene with server := scene.server.after (.arrive client step) }

/-- The scene with a client at another state. -/
def setClient (scene : Scene) (client : Nat) (correspondent : Correspondent) : Scene :=
  { scene with clients := scene.clients.set client correspondent }

/-- Connects a client. -/
def connect (scene : Scene) (listener : Nat) : Observation × Scene :=
  match scene.server.step? (.connect listener peer) with
  | some server =>
    (.connected scene.clients.length,
      { scene with server := server.settle, clients := scene.clients ++ [{}] })
  | none => (.refused, scene)

/-- Lets time pass if a client waits in vain. -/
def await (scene : Scene) (client : Nat) (isEnough : List Http.Response → Bool)
    (correspondent : Correspondent) : Scene :=
  if isEnough (scene.pending client correspondent) || scene.isClosed client then scene
  else { scene with server := scene.server.expire }

/-- Takes the next response. -/
def receive (scene : Scene) (client : Nat) (correspondent : Correspondent) :
    Observation × Scene :=
  let later := scene.await client (fun responses => !responses.isEmpty) correspondent
  match later.pending client correspondent with
  | [] => (.response none, later)
  | response :: _ =>
    (.response (some response),
      later.setClient client { correspondent with taken := correspondent.taken + 1 })

/-- Takes all responses. -/
def receiveAll (scene : Scene) (client : Nat) (correspondent : Correspondent) :
    Observation × Scene :=
  let later := scene.await client (fun _ => false) correspondent
  let responses := later.pending client correspondent
  (.responses responses,
    later.setClient client { correspondent with taken := correspondent.taken + responses.length })

/-- Triggers the shutdown. -/
def shutdown (scene : Scene) : Observation × Scene :=
  if scene.server.signal.triggered then (.stopped false, scene)
  else
    let server := scene.server.after .trigger
    (.stopped server.returned, { scene with server })

/-- Does something with a connection that is open on the client's side. -/
def withOpen (scene : Scene) (client : Nat)
    (act : Correspondent → Observation × Scene) : Observation × Scene :=
  match scene.clients[client]? with
  | some correspondent => if correspondent.isOpen then act correspondent else (.noConnection, scene)
  | none => (.noConnection, scene)

/-- Carries out one action. -/
def step (scene : Scene) : Action → Observation × Scene
  | .connect listener => scene.connect listener
  | .send client bytes => scene.withOpen client fun _ =>
    (.done, if bytes = [] then scene else scene.arrive client (.data bytes))
  | .halfClose client => scene.withOpen client fun _ => (.done, scene.arrive client .finish)
  | .close client => scene.withOpen client fun correspondent =>
    (.done, (scene.arrive client .finish).setClient client { correspondent with isOpen := false })
  | .reset client => scene.withOpen client fun correspondent =>
    (.done, (scene.arrive client (.failure resetReason)).setClient client
      { correspondent with isOpen := false })
  | .receive client => scene.withOpen client (scene.receive client)
  | .receiveAll client => scene.withOpen client (scene.receiveAll client)
  | .shutdown => scene.shutdown

/-- Carries out actions in order: what is seen of them, and the scene behind them. -/
def run (scene : Scene) : List Action → List Observation × Scene
  | [] => ([], scene)
  | action :: rest =>
    let (observation, next) := scene.step action
    let (observations, last) := next.run rest
    (observation :: observations, last)

/-- The scene after every client has closed its connections. -/
def closeAll (scene : Scene) : Scene :=
  (List.range scene.clients.length).foldl (fun scene client => scene.arrive client .finish) scene

/-- The scene at the start of a server. -/
def start (config : Config) : Except StartFault Scene := do
  return { server := (← Server.start config).settle }

end Scene

end ProxyGate.Server
