import ProxyGate.Address.Socket
import ProxyGate.Stream.Source
import Std.Async.TCP
import Std.Async.Timer

/-!
# Sockets of the host

Addresses and bytes in the host's own form, and one read of a socket with a time limit.  The host
has no place for the scope of an IPv6 address.
-/

namespace ProxyGate.Host

open Std.Async

/-- An address in the host's form. -/
def addressOf : Address.Socket → Std.Net.SocketAddress
  | .v4 ip port => .v4 ⟨.ofParts ip.a ip.b ip.c ip.d, port⟩
  | .v6 ip port _ => .v6 ⟨⟨⟨ip.groups.toArray, by simp [ip.length_groups]⟩⟩, port⟩

/-- An address from the host's form. -/
def ofAddress : Std.Net.SocketAddress → Address.Socket
  | .v4 address =>
    let octets := address.addr.octets
    .v4 ⟨octets[0], octets[1], octets[2], octets[3]⟩ address.port
  | .v6 address => .v6 ⟨address.addr.segments.toList, by simp⟩ address.port 0

/-- Sends bytes. -/
def send (client : TCP.Socket.Client) (bytes : Bytes) : Async Unit :=
  if bytes = [] then pure () else client.send ⟨bytes.toArray⟩

/-- Waits for bytes up to a number of milliseconds; none says that the time is up. -/
def receiveWithin (client : TCP.Socket.Client) (room milliseconds : Nat) :
    Async (Option (Option ByteArray)) := do
  let timer ← Selector.sleep (.ofNat milliseconds)
  Selectable.one #[
    .case (client.recvSelector (.ofNat room)) fun bytes => pure (some bytes),
    .case timer fun _ => pure none]

/-- Reads a socket once. -/
def read (client : TCP.Socket.Client) (room milliseconds : Nat) : Async (Stream.Pull Unit) := do
  let start ← IO.monoMsNow
  try
    let answer ← receiveWithin client room milliseconds
    let wait := (← IO.monoMsNow) - start
    match answer with
    | none => return .never
    | some none => return .got wait [] ()
    | some (some bytes) => return .got wait bytes.toList ()
  catch failure =>
    return .failed ((← IO.monoMsNow) - start) (toString failure) ()

end ProxyGate.Host
