import CredentialGateway.Cache.Basic
import CredentialGateway.Config.Basic
import CredentialGateway.Directory
import CredentialGateway.Gateway.Session
import CredentialGateway.Routing

/-! A gateway: its settings, what it remembers, and its forwarding entries, which are built from the metadata of
services. -/

namespace CredentialGateway

inductive Metadata
  | directory (d : Directory)
  /-- What the n-th lookup answers for an id. -/
  | external (answer : Nat → String → Except LookupError ServiceDefinition)

namespace Metadata

def lookup (m : Metadata) (turn : Nat) (id : String) : Except LookupError ServiceDefinition :=
  match m with
  | directory d => d.lookup id
  | external answer => answer turn id

theorem lookup_of_directory {m : Metadata} {d : Directory} (h : m = .directory d) (turn : Nat) (id : String) :
    m.lookup turn id = d.lookup id := by
  rw [h]
  rfl

def faulty (faults : List (String × LookupError)) (d : Directory) : Metadata :=
  .external fun _ id =>
    match faults.find? fun f => f.1 == id with
    | some f => .error f.2
    | none => d.lookup id

end Metadata

/-- Times are in milliseconds. -/
structure Gateway extends Reach where
  resolver : Resolver
  timeout : Nat
  maxBody : Nat

namespace Gateway

structure State extends Session where
  cache : Cache
  metadata : Metadata
  lookups : Nat

abbrev Finding := String → State → Except ProxyError CacheEntry × State

def ofConfig (network : Network) (c : Config) : Gateway where
  network
  tokenTimeout := 1000 * c.tokenCalls.timeout
  resolver := .ofNames c.naming.remoteEnvironment c.naming.nameSpace
  timeout := 1000 * c.forwarding.timeout
  maxBody := c.forwarding.maxBody

namespace State

def start (c : Config) (metadata : Metadata) : State where
  toSession := .start
  cache := .empty (1000 * c.forwarding.cacheTtl)
  metadata
  lookups := 0

def onSession {α : Type} (act : Session → α × Session) (s : State) : α × State :=
  let (a, session) := act s.toSession
  (a, { s with toSession := session })

def record (s : State) (m : Metric) : State := { s with toSession := s.toSession.record m }

def now (s : State) : Nat := s.world.clock

def withCache (s : State) (c : Cache) : State := { s with cache := c }.record (.cacheSize c.size)

def storeEntry (id targetUrl : String) (strategy : Strategy) (s : State) : Except ProxyError CacheEntry × State :=
  match s.cache.put s.now id targetUrl strategy with
  | .error e => (.error e, s)
  | .ok (e, cache) => (.ok e, s.withCache cache)

def rebuildEntry (id : String) (s : State) : Except ProxyError CacheEntry × State :=
  let answer := s.metadata.lookup s.lookups id
  -- A lookup that fails counts as well.
  let s := { s with lookups := s.lookups + 1 }
  match answer with
  | .error e => (.error (.lookup id e), s)
  | .ok d => s.storeEntry id d.targetUrl (.ofCredentials d.credentials)

/-- The live entry of a service in the cache; whether there was one is recorded. -/
def cachedEntry (id : String) (s : State) : Option CacheEntry × State :=
  let (found, cache) := s.cache.get s.now id
  -- The size is recorded anew only when an expired entry was removed.
  let s := if found.isNone && (s.cache.find? id).isSome then s.withCache cache else s
  (found, s.record (.cacheLookup found.isSome))

def entryFor (id : String) (s : State) : Except ProxyError CacheEntry × State :=
  match s.cachedEntry id with
  | (some e, s) => (.ok e, s)
  | (none, s) => s.rebuildEntry id

def evictExpired (s : State) : State := s.withCache (s.cache.evictExpired s.now)

def clearCache (s : State) : State := s.withCache s.cache.clear

def advance (s : State) (millis : Nat) : State := { s with toSession := s.toSession.advance millis }

/-- Applies the services of a new configuration and empties the cache. Definitions from elsewhere are left alone. -/
def reload (services : List Service) (s : State) : State :=
  let metadata := match s.metadata with
    | .directory _ => .directory (.ofServices services)
    | other => other
  { s with metadata }.clearCache

end State
end Gateway
end CredentialGateway
