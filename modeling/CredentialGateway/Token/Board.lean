import CredentialGateway.Token.Traffic

/-! A token store with its callers and an endpoint whose answers come when they come: traffic in which each party moves
as soon as it can. A flight goes on only while some caller waits for it, and rests otherwise until the next caller of its
key joins. -/

namespace CredentialGateway.Token

structure Board where
  traffic : Traffic
  /-- The outcomes of the next endpoint calls; a call without one waits for its answer. -/
  script : List (Option TokenOutcome)
  /-- The answers that the endpoint has given, by the numbers of the requests. -/
  answers : List (Nat × TokenOutcome)
  waiting : List Nat
  left : List Nat

structure Events where
  done : List (Nat × Except TokenError String)
  calls : List Wish

namespace Events

def none : Events := ⟨[], []⟩

def append (a b : Events) : Events := ⟨a.done ++ b.done, a.calls ++ b.calls⟩

end Events

namespace Board

def start (script : List (Option TokenOutcome)) : Board := ⟨.start, script, [], [], []⟩

def store (b : Board) : TokenStore := b.traffic.store

def move (b : Board) (steps : List Step) : Board := { b with traffic := .run steps b.traffic }

def callersOf (b : Board) (generation : Nat) : List Nat :=
  (List.range b.traffic.callers.length).filter fun i =>
    !b.left.contains i &&
      match b.traffic.stage? i with
      | some (.waiting g) => g == generation
      | _ => false

def results (b : Board) (callers : List Nat) : List (Nat × Except TokenError String) :=
  callers.filterMap fun i =>
    match b.traffic.stage? i with
    | some (.done r) => some (i, r)
    | _ => none

/-- Ends a request if it has its answer and a caller waits for it. -/
def land (b : Board) (fetch : Nat) : Board × Events :=
  -- An answer that nobody waits for rests until the key has a caller again.
  match b.answers.find? fun a => a.1 == fetch, b.callersOf fetch with
  | some (_, o), i :: rest =>
    let b := b.move (.complete fetch o :: (i :: rest).map .collect)
    (b, ⟨b.results (i :: rest), []⟩)
  | _, _ => (b, .none)

def settle (b : Board) : Board × Events :=
  (List.range b.traffic.fetches.length).foldl (fun (b, es) fetch =>
    let (b, new) := b.land fetch
    (b, es.append new)) (b, .none)

def callEndpoint (b : Board) (fetch : Nat) : Board :=
  match (b.script.head?).join with
  | some o => { b with script := b.script.drop 1, answers := b.answers ++ [(fetch, o)] }
  | none => { b with script := b.script.drop 1, waiting := b.waiting ++ [fetch] }

def arrive (b : Board) (w : Wish) : Board × Events :=
  let caller := b.traffic.callers.length
  let fetch := b.traffic.fetches.length
  let b := b.move [.call w, .look caller, .enter caller]
  let found := b.results [caller]
  -- The caller may also have found a token or joined a flight.
  let (b, calls) := if fetch < b.traffic.fetches.length then (b.callEndpoint fetch, [w]) else (b, [])
  let (b, es) := b.settle
  (b, Events.append ⟨found, calls⟩ es)

def arriveAll (b : Board) : List Wish → Board × Events
  | [] => (b, .none)
  | w :: rest =>
    let (b, es) := b.arrive w
    let (b, more) := b.arriveAll rest
    (b, es.append more)

def release (b : Board) (index : Nat) (o : TokenOutcome) : Board × Events :=
  match b.waiting[index]? with
  | none => (b, .none)
  | some fetch => settle { b with waiting := b.waiting.eraseIdx index, answers := b.answers ++ [(fetch, o)] }

def invalidate (b : Board) (clientId : String) : Board :=
  b.move [.detach clientId, .forget b.traffic.invalidations.length]

def advance (b : Board) (millis : Nat) : Board := b.move [.advance millis]

def cancel (b : Board) (caller : Nat) : Board := { b with left := caller :: b.left }

end Board
end CredentialGateway.Token
