import CredentialGateway.Http.HopByHop
import CredentialGateway.ProxyError
import CredentialGateway.Url.Path

/-! Requests on their way to a target: buffered, so that they can be sent again, and without all that concerns the
caller's connection only. -/

namespace CredentialGateway

structure Outbound where
  method : Http.Method
  pathAndQuery : List Char
  headers : Http.Headers
  body : Bytes
  /-- The caller's own token, which takes the place of the credentials of the service. -/
  accessToken : Option Http.HeaderValue
  deriving Repr

namespace Outbound
open Http

def forwardedHeaders (h : Headers) : Headers :=
  -- Host and length are set anew by the client.
  (((h.erase .accessToken).stripHopByHop).erase .host).erase .contentLength

def ofRequest (maxBody : Nat) (r : Request) : Except ProxyError Outbound :=
  match (r.body.read maxBody).1 with
  -- A connection that breaks is reported like a body that is too long.
  | .error e => .error (.invalidRequest ("failed to read request body: " ++ e.message))
  | .ok body =>
    .ok
      { method := r.method
        pathAndQuery := r.uri.pathAndQuery
        headers := forwardedHeaders r.headers
        body
        accessToken := (r.headers.get? .accessToken).map HeaderValue.hidden }

end Outbound

namespace Url

/-- Two paths joined with one slash; an empty second path adds none. -/
def joinPaths (a b : List Char) : List Char :=
  match a.getLast? == some '/', b with
  | true, '/' :: rest => a ++ rest
  | true, b => a ++ b
  | false, '/' :: rest => a ++ '/' :: rest
  | false, [] => a
  | false, b => a ++ '/' :: b

/-- The queries that are present and not empty, joined with an ampersand. -/
def joinQueries (a b : Option (List Char)) : Option (List Char) :=
  match a.filter (· ≠ []), b.filter (· ≠ []) with
  | some a, some b => some (a ++ '&' :: b)
  | some a, none => some a
  | none, b => b

def splitQuery (cs : List Char) : List Char × Option (List Char) :=
  let path := cs.takeWhile (· ≠ '?')
  match cs.drop path.length with
  | _ :: query => (path, some query)
  | [] => (path, none)

def join (target : Url) (pathAndQuery : List Char) : Url :=
  let (path, query) := splitQuery pathAndQuery
  (target.setPath (joinPaths target.path path)).setQuery (joinQueries target.query query)

end Url
end CredentialGateway
