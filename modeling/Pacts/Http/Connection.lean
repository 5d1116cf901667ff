import Pacts.Http.Message
import Std.Async.DNS
import Std.Async.TCP
import Std.Async.Timer

/-!
# Asking over a connection

Every question has a connection of its own, which the other side closes behind its answer.
-/

set_option autoImplicit false

namespace Pacts.Http

namespace Connection

open Std.Async

/-- An action that fails when it takes longer than a time in seconds. -/
def within {α : Type} [Inhabited α] (timeout : Option Nat) (action : Async α) : Async α :=
  match timeout with
  | none => action
  | some seconds => Async.race action do
      sleep (Std.Time.Millisecond.Offset.ofNat (seconds * 1000))
      throw (IO.userError "timed out")

/-- Everything that comes until the connection is closed, behind what came before. -/
partial def receive (timeout : Option Nat) (socket : TCP.Socket.Client) (came : ByteArray) :
    Async ByteArray := do
  match ← within timeout (socket.recv? 65536) with
  | none => return came
  | some bytes => receive timeout socket (came ++ bytes)

/-- The address of a host and a port. -/
def socketAddress (port : Nat) : Std.Net.IPAddr → Std.Net.SocketAddress
  | .v4 addr => .v4 ⟨addr, UInt16.ofNat port⟩
  | .v6 addr => .v6 ⟨addr, UInt16.ofNat port⟩

/-- The host without the brackets around an address. -/
def bareHost (host : String) : String :=
  String.ofList (host.toList.filter fun c => c ≠ '[' ∧ c ≠ ']')

/-- The bytes that come back for a question. -/
def converse (timeout : Option Nat) (q : Question) : Async ByteArray := do
  let addresses ← DNS.getAddrInfo (bareHost q.host) ""
  match addresses[0]? with
  | none => throw (IO.userError "no address")
  | some address =>
    let socket ← TCP.Socket.Client.mk
    within timeout (socket.connect (socketAddress q.port address))
    socket.send q.message.toUTF8
    receive timeout socket .empty

/-- The bytes that come back for a question, or what went wrong. -/
def bytesFor (timeout : Option Nat) (q : Question) : IO (Except String (List UInt8)) := do
  try
    return .ok (← (converse timeout q).block).toList
  catch e => return .error (toString e)

end Connection

/-- The reply to a request over a connection; `timeout` is the time to wait in seconds. -/
def reply (timeout : Option Nat) : Request → IO Reply :=
  replyIn (Connection.bytesFor timeout) timeout

end Pacts.Http
