import CredentialGateway.Csrf
import CredentialGateway.Metrics
import CredentialGateway.Strategy
import CredentialGateway.Token.Endpoint

/-! Attaching credentials to requests. A session holds what this depends on and changes: the network so far, the cached
tokens, the attempts to forward requests, and what was recorded. -/

namespace CredentialGateway

open Http

structure Attempt where
  service : String
  call : Call
  result : Except ProxyError Received

structure Session where
  world : World
  tokens : TokenStore
  csrf : CsrfStore
  attempts : List Attempt
  metrics : Metrics

structure Reach where
  network : Network
  /-- The timeout of each call, in milliseconds. -/
  tokenTimeout : Nat

namespace Session

def start : Session := ⟨.start, .empty, .empty, [], []⟩

def record (s : Session) (m : Metric) : Session := { s with metrics := m :: s.metrics }

def advance (s : Session) (millis : Nat) : Session := { s with world := s.world.advance millis }

def fetchToken (r : Reach) (key : TokenKey) (f : Flight) (s : Session) : Except TokenError String × Session :=
  let (answer, world) :=
    Token.requestToken r.network r.tokenTimeout key.clientId f.clientSecret key.tokenUrl s.world
  -- The caller gets the token even if the store does not take it.
  (answer.map TokenAnswer.accessToken,
    { s with
      world
      tokens := s.tokens.complete world.clock key f.generation answer
      metrics := .tokenFetch answer.isOk :: s.metrics })

def getToken (r : Reach) (key : TokenKey) (clientSecret : String) (s : Session) :
    Except TokenError String × Session :=
  match s.tokens.cached? s.world.clock key with
  | some token => (.ok token, s)
  | none =>
    match s.tokens.enter s.world.clock key clientSecret with
    | (.cached token, tokens) => (.ok token, { s with tokens })
    | (.joined f, tokens) | (.opened f, tokens) => fetchToken r key f { s with tokens }

def fetchWord : HeaderValue := ⟨Bytes.ofText "Fetch", false⟩

def csrfHeaders (authorization : Option HeaderValue) (h : Headers) : Headers :=
  let h := h.add .csrfToken fetchWord
  match authorization with
  | some v => h.add .authorization v
  | none => h

/-- The CSRF token of an endpoint, from the store or else from the endpoint. The body of the answer is not read. -/
def getCsrfToken (r : Reach) (url : String) (authorization : Option HeaderValue) (s : Session) :
    Except CsrfError CsrfToken × Session :=
  -- The store has one token for an endpoint, whoever the caller is.
  match s.csrf.get? url with
  | some t => (.ok t, s)
  | none =>
    match Call.request r.network r.tokenTimeout .get url (csrfHeaders authorization) [] s.world with
    | (.error e, world) => (.error (.request url e.message), { s with world })
    | (.ok response, world) =>
      if !isSuccess response.status then (.error (.status url response.status), { s with world })
      else
        match CsrfToken.ofHeaders? response.headers with
        | none => (.error (.missingToken url), { s with world })
        | some t => (.ok t, { s with world, csrf := s.csrf.insert url t })

def basicValue? (username password : String) : Option HeaderValue :=
  let encoded := Bytes.base64 (Bytes.ofText (username ++ ":" ++ password))
  (HeaderValue.ofText? ("Basic " ++ String.ofList encoded)).map HeaderValue.hidden

def bearerValue? (token : String) : Option HeaderValue :=
  (HeaderValue.ofText? ("Bearer " ++ token)).map HeaderValue.hidden

/-- Sets the header of a mechanism. What was set before an error stays. -/
def setMechanism (r : Reach) (m : Mechanism) (h : Headers) (s : Session) :
    (Headers × Except AuthorizationError Unit) × Session :=
  match m with
  | .none => ((h, .ok ()), s)
  | .basic username password =>
    match basicValue? username password with
    | none => ((h, .error .invalidHeader), s)
    | some v => ((h.set .authorization v, .ok ()), s)
  | .oauth clientId clientSecret tokenUrl =>
    match getToken r ⟨clientId, tokenUrl⟩ clientSecret s with
    | (.error e, s) => ((h, .error (.token e)), s)
    | (.ok token, s) =>
      match bearerValue? token with
      | none => ((h, .error .invalidHeader), s)
      | some v => ((h.set .authorization v, .ok ()), s)

/-- Does the CSRF handshake, as the caller or service that the headers authorize. -/
def shakeHands (r : Reach) (url : String) (h : Headers) (s : Session) :
    (Headers × Except AuthorizationError Unit) × Session :=
  match getCsrfToken r url (h.get? .authorization) s with
  | (.error e, s) => ((h, .error (.csrf e)), s)
  | (.ok t, s) =>
    let (h, result) := t.apply h
    ((h, result.mapError .csrf), s)

def setup (r : Reach) (strategy : Strategy) (h : Headers) (s : Session) :
    (Headers × Except AuthorizationError Unit) × Session :=
  match setMechanism r strategy.mechanism h s with
  | ((h, .error e), s) => ((h, .error e), s)
  | ((h, .ok ()), s) =>
    match strategy.csrf with
    | none => ((h, .ok ()), s)
    | some url => shakeHands r url h s

def reset (strategy : Strategy) (s : Session) : Session :=
  let s := match strategy.mechanism with
    -- All tokens of the client go, at whatever URL they were asked for.
    | .oauth clientId _ _ => { s with tokens := s.tokens.invalidate clientId }
    | _ => s
  match strategy.csrf with
  | some url => { s with csrf := s.csrf.erase url }
  | none => s

end Session
end CredentialGateway
