import CredentialGateway.Unicode.Blank
import CredentialGateway.Unicode.LowerCase

/-! From host names to service ids and back. The first label of a host names the service, after the tag of the remote
environment if there is one. -/

namespace CredentialGateway

structure Resolver where
  /-- What precedes service ids in host names. -/
  tag : List Char
  nameSpace : String
  deriving DecidableEq, Repr

namespace Resolver

def ofNames (remoteEnvironment nameSpace : String) : Resolver where
  tag := if remoteEnvironment = "" then [] else "re-".toList ++ Unicode.lower remoteEnvironment.toList ++ ['-']
  nameSpace

/-- A host without its port. In brackets colons are part of the host. -/
def stripPort : List Char → List Char
  | '[' :: rest => rest.takeWhile (· ≠ ']')
  | host => if host.contains ':' then ((host.reverse.dropWhile (· ≠ ':')).drop 1).reverse else host

def serviceId? (r : Resolver) (host : String) : Option String :=
  let label := Unicode.lower ((stripPort (Unicode.trim host.toList)).takeWhile (· ≠ '.'))
  -- A host without the tag is routed as if it had one.
  let id := if r.tag.isPrefixOf label then label.drop r.tag.length else label
  if id = [] then none else some (String.ofList id)

def resourceName (r : Resolver) (id : String) : String := String.ofList r.tag ++ id

def gatewayHost (r : Resolver) (id : String) : String :=
  r.resourceName id ++ "." ++ r.nameSpace ++ ".svc.cluster.local"

end Resolver
end CredentialGateway
