import CredentialGateway.Http.Message
import CredentialGateway.Url.Basic

/-! The network as a gateway meets it: requests that were sent, replies that take their time or break off, and the
clock. Times are in milliseconds. -/

namespace CredentialGateway

/-- A request as it was sent. The host and the length of the body are no part of the headers. -/
structure Sent where
  method : String
  host : List Char
  target : List Char
  headers : Http.Headers
  body : Bytes
  deriving DecidableEq, Repr

inductive Cut
  | close
  | stall
  deriving DecidableEq, Repr

structure Reply where
  status : Nat
  headers : Http.Headers
  body : Bytes
  delay : Nat
  /-- The connection is closed without a response. -/
  reset : Bool
  cut : Option Cut
  deriving DecidableEq, Repr

def Reply.broken (delay : Nat) : Reply := ⟨0, .empty, [], delay, true, none⟩

/-- A network: to which URLs a connection can be made, and what a request is answered after the requests before it. -/
structure Network where
  connects : Url → Bool
  reply : List Sent → Sent → Reply

namespace Network

/-- A network without encryption that answers requests by replies that were received before; a request beyond them gets
no response. -/
def recorded (replies : List Reply) : Network where
  connects u := u.scheme == "http".toList
  reply before _ := (replies[before.length]?).getD (.broken 0)

def confined (n : Network) : Network := { n with connects := fun _ => false }

end Network

structure World where
  clock : Nat
  sent : List Sent
  deriving DecidableEq, Repr

namespace World

def start : World := ⟨0, []⟩

def advance (w : World) (millis : Nat) : World := { w with clock := w.clock + millis }

def waitUntil (w : World) (time : Nat) : World := { w with clock := max w.clock time }

def record (w : World) (s : Sent) : World := { w with sent := w.sent ++ [s] }

end World

structure Received where
  status : Nat
  headers : Http.Headers
  body : Bytes
  cut : Option Cut
  deadline : Nat
  deriving DecidableEq, Repr

namespace Received

/-- Reads the body. One that breaks off in silence is waited for until the deadline of the call. -/
def readBody (r : Received) (w : World) : Option Bytes × World :=
  match r.cut with
  | none => (some r.body, w)
  | some .close => (none, w)
  | some .stall => (none, w.waitUntil r.deadline)

end Received
end CredentialGateway
