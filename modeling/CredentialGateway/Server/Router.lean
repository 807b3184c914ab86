import CredentialGateway.ProxyError

/-! Which requests have a route, and the answers that need no service. -/

namespace CredentialGateway.Server
open Http

/-- Every path has a route; a target that is no path has none. -/
def isRouted (r : Request) : Bool := r.uri.path.head? == some '/'

def notFound : Response := ⟨404, .empty, some []⟩

def withoutHeadBody (r : Request) (response : Response) : Response :=
  if r.method = .head then { response with body := some [] } else response

def invalidState (message : String) (r : Request) : Response :=
  withoutHeadBody r (if isRouted r then errorResponse 500 "invalid_state" message else notFound)

end CredentialGateway.Server
