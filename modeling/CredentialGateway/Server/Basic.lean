import CredentialGateway.Cache.Sweeper
import CredentialGateway.Gateway.Dispatch
import CredentialGateway.Server.Router

/-! A server over a gateway: it gives each request an id, counts what it answers, takes over new services, and lets the
sweeper do its work, until it is shut down. -/

namespace CredentialGateway

open Http

namespace Server

def withRequestId (fresh : HeaderValue) (r : Request) : Request :=
  if r.headers.contains .requestId then r else { r with headers := r.headers.set .requestId fresh }

/-- A response that tells the id of its request, unless it has one already. -/
def propagateRequestId (r : Request) (response : Response) : Response :=
  if response.headers.contains .requestId then response
  else
    match r.headers.get? .requestId with
    | none => response
    | some id => { response with headers := response.headers.set .requestId id }

/-- Answers a request by the gateway. The time until the head of the response is recorded, and then its body is read. -/
def handleBy (find : Gateway.Finding) (g : Gateway) (r : Request) (s : Gateway.State) : Response × Gateway.State :=
  let (result, after) := Gateway.forwardBy find g r s
  let recorded (status : Nat) := after.record (.request r.method.token status (after.now - s.now))
  match result with
  | .error e => (e.response, recorded e.status)
  | .ok received => Gateway.finish received (recorded received.status)

def serveBy (find : Gateway.Finding) (g : Gateway) (fresh : HeaderValue) (r : Request) (s : Gateway.State) :
    Response × Gateway.State :=
  let r := withRequestId fresh r
  -- Requests without a route are neither counted nor given to the gateway.
  let (response, s) := if isRouted r then handleBy find g r s else (notFound, s)
  (withoutHeadBody r (propagateRequestId r response), s)

def serve (g : Gateway) (fresh : HeaderValue) (r : Request) (s : Gateway.State) : Response × Gateway.State :=
  serveBy Gateway.State.entryFor g fresh r s

end Server

structure Server where
  gateway : Gateway
  state : Gateway.State
  sweeper : Option Sweeper
  running : Bool

namespace Server

/-- A server that has just been started. An interval of zero means no sweeper. -/
def start (network : Network) (c : Config) (metadata : Metadata) : Server where
  gateway := .ofConfig network c
  state := .start c metadata
  sweeper := if c.forwarding.sweepInterval = 0 then none else some (.start (1000 * c.forwarding.sweepInterval) 0)
  running := true

def request (fresh : HeaderValue) (r : Request) (s : Server) : Option Response × Server :=
  if s.running then
    let (response, state) := serve s.gateway fresh r s.state
    (some response, { s with state })
  else (none, s)

/-- Takes over new services. A server that has been shut down does not hear of them. -/
def reload (services : List Service) (s : Server) : Bool × Server :=
  if s.running then (true, { s with state := s.state.reload services }) else (false, s)

def sweep (s : Server) : Server :=
  match s.sweeper with
  | none => s
  | some w =>
    { s with
      state := if w.isDue s.state.now then s.state.evictExpired else s.state
      sweeper := some (w.advance s.state.now) }

def advance : Nat → Server → Server
  | 0, s => s
  | n + 1, s => advance n { s with state := s.state.advance 1000 }.sweep

def shutdown (s : Server) : Server := { s with sweeper := none, running := false }

end Server
end CredentialGateway
