import CredentialGateway.Token.Store

/-! A token store under traffic: any number of callers, the requests that they cause and the invalidations, all of which
move in steps between which any of the others may move. A request to the endpoint begins when its flight is opened. -/

namespace CredentialGateway

abbrev TokenOutcome := Except TokenError TokenAnswer

namespace Token

structure Wish where
  key : TokenKey
  clientSecret : String
  deriving DecidableEq, Repr

inductive Stage
  | begun
  /-- The caller has found no valid token in the store, and has not entered yet. -/
  | missed
  /-- The caller waits for the flight of this generation. -/
  | waiting (generation : Nat)
  | done (result : Except TokenError String)

structure Caller where
  wish : Wish
  stage : Stage

structure Answer where
  outcome : TokenOutcome
  time : Nat

structure Fetch where
  key : TokenKey
  flight : Flight
  answer : Option Answer

/-- The removal of all that belongs to a client: its flights first, then its tokens. -/
structure Invalidation where
  clientId : String
  finished : Bool
  deriving DecidableEq, Repr

def resultOf (o : TokenOutcome) : Except TokenError String := o.map TokenAnswer.accessToken

structure Traffic where
  store : TokenStore
  clock : Nat
  callers : List Caller
  fetches : List Fetch
  invalidations : List Invalidation

inductive Step
  | call (w : Wish)
  | look (caller : Nat)
  | enter (caller : Nat)
  | complete (fetch : Nat) (o : TokenOutcome)
  | collect (caller : Nat)
  | detach (clientId : String)
  | forget (invalidation : Nat)
  | advance (millis : Nat)

namespace Traffic

def start : Traffic := ⟨.empty, 0, [], [], []⟩

def stage? (s : Traffic) (caller : Nat) : Option Stage := (s.callers[caller]?).map Caller.stage

def moveTo (s : Traffic) (caller : Nat) (stage : Stage) : Traffic :=
  { s with callers := s.callers.modify caller fun c => { c with stage } }

def fetchOf? (s : Traffic) (generation : Nat) : Option Fetch :=
  s.fetches.find? fun f => f.flight.generation == generation

def look (s : Traffic) (caller : Nat) : Traffic :=
  match s.callers[caller]? with
  | some ⟨w, .begun⟩ =>
    match s.store.cached? s.clock w.key with
    | some token => s.moveTo caller (.done (.ok token))
    | none => s.moveTo caller .missed
  | _ => s

def enter (s : Traffic) (caller : Nat) : Traffic :=
  match s.callers[caller]? with
  | some ⟨w, .missed⟩ =>
    match s.store.enter s.clock w.key w.clientSecret with
    | (.cached token, store) => { s with store }.moveTo caller (.done (.ok token))
    | (.joined f, store) => { s with store }.moveTo caller (.waiting f.generation)
    | (.opened f, store) =>
      let fetch : Fetch := ⟨w.key, f, none⟩
      { s with store, fetches := s.fetches ++ [fetch] }.moveTo caller (.waiting f.generation)
  | _ => s

def complete (s : Traffic) (fetch : Nat) (o : TokenOutcome) : Traffic :=
  match s.fetches[fetch]? with
  | some ⟨key, flight, none⟩ =>
    -- The answer reaches everyone who waits for it, whatever the store makes of it.
    { s with
      store := s.store.complete s.clock key flight.generation o
      fetches := s.fetches.set fetch ⟨key, flight, some ⟨o, s.clock⟩⟩ }
  | _ => s

def collect (s : Traffic) (caller : Nat) : Traffic :=
  match s.stage? caller with
  | some (.waiting generation) =>
    match (s.fetchOf? generation).bind Fetch.answer with
    | some a => s.moveTo caller (.done (resultOf a.outcome))
    | none => s
  | _ => s

def detach (s : Traffic) (clientId : String) : Traffic :=
  { s with store := s.store.detach clientId, invalidations := s.invalidations ++ [⟨clientId, false⟩] }

def forget (s : Traffic) (invalidation : Nat) : Traffic :=
  match s.invalidations[invalidation]? with
  | some ⟨clientId, false⟩ =>
    { s with
      store := s.store.forget clientId
      invalidations := s.invalidations.set invalidation ⟨clientId, true⟩ }
  | _ => s

/-- What a step does; one that its party is not ready for does nothing. -/
def step (s : Traffic) : Step → Traffic
  | .call w => { s with callers := s.callers ++ [⟨w, .begun⟩] }
  | .look caller => s.look caller
  | .enter caller => s.enter caller
  | .complete fetch o => s.complete fetch o
  | .collect caller => s.collect caller
  | .detach clientId => s.detach clientId
  | .forget invalidation => s.forget invalidation
  | .advance millis => { s with clock := s.clock + millis }

def run : List Step → Traffic → Traffic
  | [], s => s
  | a :: as, s => run as (s.step a)

end Traffic
end Token
end CredentialGateway
