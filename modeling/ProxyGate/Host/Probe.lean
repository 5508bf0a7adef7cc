import ProxyGate.Command.Probe
import ProxyGate.Host.Socket
import ProxyGate.Http.Reply

/-!
# A probe on the host's network

Connects to the address of a probe, sends what it sends and reads on until a whole response has
come.  A probe that cannot connect, or gets no response, ends with nothing more to show.
-/

namespace ProxyGate.Host

open Command (Probe)
open Std.Async

/-- Reads a connection until a whole response has come; none when none comes. -/
partial def receiveReply (client : TCP.Socket.Client) (bytes : Bytes) :
    Async (Option Http.Reply) := do
  match Http.Arrival.read bytes with
  | .reply reply => return some reply
  | .malformed => return none
  | .more =>
    match ← client.recv? 4096 with
    | none => return none
    | some more => receiveReply client (bytes ++ more.toList)

/-- What a connected probe does. -/
def converseAs (probe : Probe) (opening : Bytes) (client : TCP.Socket.Client) :
    Async Probe.Result := do
  send client opening
  match probe.requestBytes? with
  | none => return Probe.unanswered opening
  | some request =>
    try
      send client request
      match ← receiveReply client [] with
      | none => return Probe.unanswered opening
      | some reply =>
        let body := (Bytes.text? reply.body).getD ""
        return Probe.answered opening reply.status reply.reason body
    catch _ => return Probe.unanswered opening

/-- Connects a probe and runs it. -/
def connectProbe (probe : Probe) (opening : Bytes) : Async Probe.Result := do
  match Address.Socket.ofText? probe.address with
  | none => return Probe.unconnected
  | some address =>
    try
      let client ← TCP.Socket.Client.mk
      client.connect (addressOf address)
      converseAs probe opening client
    catch _ => return Probe.unconnected

/-- Runs a probe; gives the exit code. -/
def runProbe (probe : Probe) : IO UInt32 := do
  let result ←
    match Probe.openingBytes? probe.opening with
    | none => pure Probe.mixed
    | some opening => (connectProbe probe opening).block
  for printed in result.printed do IO.print printed.text
  if let some complaint := result.complaint then IO.eprintln complaint
  return result.exitCode.toUInt32

end ProxyGate.Host
