import CredentialGateway.Shutdown

/-! Those in a process who are to hear the signal to shut down. The process gives them their receivers one after the
other while it starts, and meanwhile the signal may come, and those who have a receiver may look whether it did. -/

namespace CredentialGateway

inductive Listener
  | server
  | sweeper
  | reloader
  deriving DecidableEq, Repr

structure Audience where
  shutdown : Shutdown
  receiver : Listener → Option Receiver
  /-- Those who are still to get a receiver, the next one first. -/
  waiting : List Listener
  /-- Who has heard the signal, as often as they did. -/
  told : List Listener

namespace Audience

inductive Step
  | trigger
  | join
  | receive (l : Listener)
  deriving DecidableEq, Repr

def start (sweeps : Bool) : Audience :=
  ⟨.start, fun _ => none, .server :: (if sweeps then [.sweeper, .reloader] else [.reloader]), []⟩

/-- The next one gets a receiver: the server a new one, the others one that is made of the server's. -/
def join (a : Audience) : Audience :=
  match a.waiting with
  | [] => a
  | l :: rest =>
    let r := match a.receiver .server with
      | none => a.shutdown.subscribe
      | some r => a.shutdown.resubscribe r
    { a with receiver := fun x => if x = l then some r else a.receiver x, waiting := rest }

def receive (a : Audience) (l : Listener) : Audience :=
  match a.receiver l with
  | none => a
  | some r =>
    let (signal, r) := a.shutdown.receive r
    { a with
      receiver := fun x => if x = l then some r else a.receiver x
      told := if signal then a.told ++ [l] else a.told }

def step (a : Audience) : Step → Audience
  | .trigger => { a with shutdown := a.shutdown.trigger }
  | .join => a.join
  | .receive l => a.receive l

def run : List Step → Audience → Audience
  | [], a => a
  | x :: xs, a => run xs (a.step x)

end Audience
end CredentialGateway
