import CredentialGateway.Http.Body
import CredentialGateway.Http.Header
import CredentialGateway.Http.Method
import CredentialGateway.Http.RequestUri

/-! Requests and responses as they pass the gateway. -/

namespace CredentialGateway.Http

structure Request where
  method : Method
  uri : RequestUri
  headers : Headers
  body : Body
  deriving Repr

/-- A response; its body is missing if it broke off while it was read. -/
structure Response where
  status : Nat
  headers : Headers
  body : Option Bytes
  deriving DecidableEq, Repr

namespace Request

/-- The host that the caller addressed: the Host header if it reads as text, else the authority of the target. -/
def host? (r : Request) : Option String :=
  let host := ((r.headers.get? .host).bind HeaderValue.chars?).or r.uri.authority?
  (host.filter (· ≠ [])).map String.ofList

def requestId (r : Request) : String :=
  ((r.headers.get? .requestId).bind HeaderValue.text?).getD "unknown"

end Request

def isStatus (n : Nat) : Bool := 100 ≤ n && n ≤ 999

def isSuccess (status : Nat) : Bool := 200 ≤ status && status < 300

def forbidden : Nat := 403

def expectsBody (method : String) (status : Nat) : Bool := method ≠ "HEAD" && status ≠ 204 && status ≠ 304

end CredentialGateway.Http
