import CredentialGateway.ProxyError

/-! The store of bearer tokens, one per client id and token URL. At most one request per key is in flight, and every
caller of the key shares it. The steps below are those between which other callers may act. Times are in
milliseconds. -/

namespace CredentialGateway

structure TokenKey where
  clientId : String
  tokenUrl : String
  deriving DecidableEq, Repr

structure TokenAnswer where
  accessToken : String
  tokenType : Option String
  /-- The lifetime in seconds; without one a token lives until it is invalidated. -/
  expiresIn : Option Nat
  deriving DecidableEq, Repr

structure CachedToken where
  token : String
  ends : Option Nat
  deriving DecidableEq, Repr

namespace CachedToken

/-- Tokens count as expired this many seconds before the endpoint says so. -/
def margin : Nat := 5

/-- Seconds that lie beyond the horizon of the clock. -/
def horizon : Nat := Nat.pow 2 63

/-- The end of a life of so many seconds, unless the clock never gets there. -/
def endOf (now seconds : Nat) : Option Nat :=
  if horizon ≤ now / 1000 + (seconds - margin) then none else some (now + 1000 * (seconds - margin))

def ofAnswer (a : TokenAnswer) (now : Nat) : CachedToken := ⟨a.accessToken, a.expiresIn.bind (endOf now)⟩

def isValid (t : CachedToken) (now : Nat) : Bool :=
  match t.ends with
  | none => true
  | some e => now < e

end CachedToken

/-- A request in flight. Generations tell flights apart. -/
structure Flight where
  generation : Nat
  clientSecret : String
  deriving DecidableEq, Repr

structure TokenStore where
  tokens : List (TokenKey × CachedToken)
  inFlight : List (TokenKey × Flight)
  opened : Nat
  deriving DecidableEq, Repr

namespace TokenStore

def empty : TokenStore := ⟨[], [], 0⟩

def token? (s : TokenStore) (key : TokenKey) : Option CachedToken :=
  (s.tokens.find? fun e => e.1 == key).map Prod.snd

def flight? (s : TokenStore) (key : TokenKey) : Option Flight :=
  (s.inFlight.find? fun e => e.1 == key).map Prod.snd

def cached? (s : TokenStore) (now : Nat) (key : TokenKey) : Option String :=
  ((s.token? key).filter fun t => t.isValid now).map CachedToken.token

inductive Admission
  | cached (token : String)
  | joined (flight : Flight)
  | opened (flight : Flight)
  deriving DecidableEq, Repr

def openFlight (s : TokenStore) (key : TokenKey) (clientSecret : String) : TokenStore :=
  { s with inFlight := s.inFlight ++ [(key, ⟨s.opened, clientSecret⟩)], opened := s.opened + 1 }

/-- Joins the flight of a key or, if there is none and still no valid token, opens one. -/
def enter (s : TokenStore) (now : Nat) (key : TokenKey) (clientSecret : String) : Admission × TokenStore :=
  match s.flight? key with
  | some f => (.joined f, s)
  | none =>
    -- A flight may have landed since the caller looked.
    match s.cached? now key with
    | some token => (.cached token, s)
    | none => (.opened ⟨s.opened, clientSecret⟩, s.openFlight key clientSecret)

def setToken (s : TokenStore) (key : TokenKey) (t : CachedToken) : TokenStore :=
  { s with tokens := (s.tokens.filter fun e => e.1 != key) ++ [(key, t)] }

def removeFlight (s : TokenStore) (key : TokenKey) : TokenStore :=
  { s with inFlight := s.inFlight.filter fun e => e.1 != key }

/-- What a flight that is still registered leaves when it ends: its token, if it has one. -/
def landed (s : TokenStore) (now : Nat) (key : TokenKey) (result : Except TokenError TokenAnswer) : TokenStore :=
  match result with
  | .ok a => (s.setToken key (.ofAnswer a now)).removeFlight key
  | .error _ => s.removeFlight key

/-- Ends a flight. One that is no longer registered leaves nothing in the store. -/
def complete (s : TokenStore) (now : Nat) (key : TokenKey) (generation : Nat)
    (result : Except TokenError TokenAnswer) : TokenStore :=
  match s.flight? key with
  | none => s
  -- The key may have another flight by now, opened after an invalidation.
  | some f => if f.generation = generation then s.landed now key result else s

def detach (s : TokenStore) (clientId : String) : TokenStore :=
  { s with inFlight := s.inFlight.filter fun e => e.1.clientId != clientId }

def forget (s : TokenStore) (clientId : String) : TokenStore :=
  { s with tokens := s.tokens.filter fun e => e.1.clientId != clientId }

def invalidate (s : TokenStore) (clientId : String) : TokenStore := (s.detach clientId).forget clientId

def shown (s : TokenStore) : String :=
  Text.shownRecord "OAuthTokenSource"
    [("cached", toString s.tokens.length), ("in_flight", toString s.inFlight.length)]

end TokenStore
end CredentialGateway
