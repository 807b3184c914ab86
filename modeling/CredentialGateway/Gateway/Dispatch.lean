import CredentialGateway.Gateway.Forward

/-! Dispatching a request: from its host to the service, and from the service's entry to the response. -/

namespace CredentialGateway.Gateway

open Http

def serviceOf (g : Gateway) (r : Request) : Except ProxyError String :=
  match r.host? with
  | none => .error (.invalidRequest "missing Host header")
  | some host =>
    match g.resolver.serviceId? host with
    | none => .error (.invalidRequest ("cannot resolve a service from host '" ++ host ++ "'"))
    | some id => .ok id

def outboundOf (g : Gateway) (r : Request) : Except ProxyError (String × Outbound) :=
  match g.serviceOf r with
  | .error e => .error e
  | .ok id => (Outbound.ofRequest g.maxBody r).map fun o => (id, o)

/-- How long the body of a request is waited for: until it has been read, if there is a service to send it to. -/
def arrival (g : Gateway) (r : Request) : Nat :=
  match g.serviceOf r with
  -- The body is not touched.
  | .error _ => 0
  | .ok _ => (r.body.read g.maxBody).2

def awaitBody (g : Gateway) (r : Request) (s : State) : State := s.advance (g.arrival r)

/-- Forwards a request, once its body has been read, and gives the response of the last attempt. -/
def forwardBy (find : Finding) (g : Gateway) (r : Request) (s : State) : Except ProxyError Received × State :=
  let s := g.awaitBody r s
  match g.outboundOf r with
  | .error e => (.error e, s)
  | .ok (id, o) =>
    match find id s with
    | (.error e, s) => (.error e, s)
    | (.ok entry, s) =>
      match s.onSession (g.attempt entry o) with
      | (.error e, s) => (.error e, s)
      | (.ok first, s) =>
        (Retrier.onResponse g ⟨false⟩ entry o (State.rebuildEntry id) first s).2

def forward (g : Gateway) (r : Request) (s : State) : Except ProxyError Received × State :=
  forwardBy State.entryFor g r s

def dispatchBy (find : Finding) (g : Gateway) (r : Request) (s : State) : Except ProxyError Response × State :=
  match forwardBy find g r s with
  | (.error e, s) => (.error e, s)
  | (.ok received, s) =>
    let (response, s) := finish received s
    (.ok response, s)

def dispatch (g : Gateway) (r : Request) (s : State) : Except ProxyError Response × State :=
  dispatchBy State.entryFor g r s

end CredentialGateway.Gateway
