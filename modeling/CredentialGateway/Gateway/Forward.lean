import CredentialGateway.Gateway.Basic
import CredentialGateway.Http.HopByHop
import CredentialGateway.Outbound
import CredentialGateway.Timeout

/-! Forwarding a request: one attempt with the credentials of its service, and a second one with fresh credentials if
the first is answered 403. -/

namespace CredentialGateway.Gateway

open Http

/-- The headers of an attempt. A token of the caller takes the place of the credentials of the service. -/
def authorize (g : Gateway) (e : CacheEntry) (o : Outbound) (s : Session) : Except ProxyError Headers × Session :=
  match o.accessToken with
  | some token => (.ok (o.headers.set .authorization token), s)
  | none =>
    match s.setup g.toReach e.strategy o.headers with
    | ((_, .error err), s) => (.error (.authorization e.service err), s)
    | ((h, .ok ()), s) => (.ok h, s)

def callOf (e : CacheEntry) (o : Outbound) (h : Headers) : Call :=
  let (url, credentials) := Call.splitUserInfo (e.target.join o.pathAndQuery)
  -- Credentials in the URL of the target give way to those of the strategy or the caller.
  ⟨o.method, url, Call.withAccept ((Call.urlHeaders credentials).override h), o.body⟩

def failureOf (g : Gateway) (service : String) (e : CallError) : ProxyError :=
  if e.isTimeout then .timeout service (.ofMillis g.timeout) else .transport service e.message

def sendAttempt (g : Gateway) (e : CacheEntry) (o : Outbound) (h : Headers) (s : Session) :
    Except ProxyError Received × Session :=
  let call := callOf e o h
  let (answer, world) := call.send g.network (s.world.clock + g.timeout) s.world
  -- The call bears the deadline of the timeout that is put around it.
  let (outcome, millis) := withTimeout e.service g.timeout (world.clock - s.world.clock) answer
  let result := outcome.bind fun answer => answer.mapError (g.failureOf e.service)
  let world := { world with clock := s.world.clock + millis }
  (result, { s with world, attempts := s.attempts ++ [⟨e.service, call, result⟩] })

def attempt (g : Gateway) (e : CacheEntry) (o : Outbound) (s : Session) : Except ProxyError Received × Session :=
  match g.authorize e o s with
  | (.error err, s) => (.error err, s)
  | (.ok h, s) => g.sendAttempt e o h s

structure Retrier where
  retried : Bool
  deriving DecidableEq, Repr

def outcomeOf : Except ProxyError Received → RetryOutcome
  | .ok r => if r.status = forbidden then .forbidden else .success
  | .error _ => .error

/-- Forgets the credentials that were refused, builds the entry anew and sends the request again. -/
def replay (g : Gateway) (e : CacheEntry) (o : Outbound)
    (rebuild : State → Except ProxyError CacheEntry × State) (s : State) : Except ProxyError Received × State :=
  -- The secrets are gone even if what follows fails.
  let s := { s with toSession := s.toSession.reset e.strategy }
  let (result, s) : Except ProxyError Received × State :=
    match rebuild s with
    | (.error err, s) => (.error err, s)
    | (.ok fresh, s) => s.onSession (g.attempt fresh o)
  (result, s.record (.forbiddenRetry (outcomeOf result)))

/-- Passes a response on, unless it is the first one with status 403. -/
def Retrier.onResponse (g : Gateway) (t : Retrier) (e : CacheEntry) (o : Outbound)
    (rebuild : State → Except ProxyError CacheEntry × State) (r : Received) (s : State) :
    Retrier × Except ProxyError Received × State :=
  if t.retried || r.status ≠ forbidden then (t, .ok r, s) else (⟨true⟩, g.replay e o rebuild s)

def finish (r : Received) (s : State) : Response × State :=
  let (body, world) := r.readBody s.world
  (⟨r.status, r.headers.stripHopByHop, body⟩, { s with world })

end CredentialGateway.Gateway
