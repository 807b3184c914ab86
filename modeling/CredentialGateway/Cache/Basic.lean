import CredentialGateway.ProxyError
import CredentialGateway.Strategy
import CredentialGateway.Url.Parse

/-! The cache of forwarding entries, one per service id. An entry lives for a fixed time from its creation; using it
never extends its life. Times are in milliseconds. -/

namespace CredentialGateway

structure CacheEntry where
  service : String
  target : Url
  strategy : Strategy
  created : Nat
  /-- Tells entries apart: each has the number of entries that were stored before it. -/
  serial : Nat
  deriving DecidableEq, Repr

namespace CacheEntry

def isExpired (ttl now : Nat) (e : CacheEntry) : Bool := ttl ≤ now - e.created

end CacheEntry

structure Cache where
  ttl : Nat
  entries : List CacheEntry
  stored : Nat
  deriving DecidableEq, Repr

namespace Cache

def empty (ttl : Nat) : Cache := ⟨ttl, [], 0⟩

def size (c : Cache) : Nat := c.entries.length

/-- The entry of a service, expired or not. -/
def find? (c : Cache) (service : String) : Option CacheEntry :=
  c.entries.find? fun e => e.service == service

def removeIfSame (c : Cache) (e : CacheEntry) : Cache :=
  -- The service may have a new entry by now, and that one stays.
  { c with entries := c.entries.filter fun f => !(f.service == e.service && f.serial == e.serial) }

/-- The live entry of a service; an expired one is removed. -/
def get (c : Cache) (now : Nat) (service : String) : Option CacheEntry × Cache :=
  match c.find? service with
  | none => (none, c)
  | some e => if e.isExpired c.ttl now then (none, c.removeIfSame e) else (some e, c)

def insert (c : Cache) (now : Nat) (service : String) (target : Url) (strategy : Strategy) : CacheEntry × Cache :=
  let e : CacheEntry := ⟨service, target, strategy, now, c.stored⟩
  (e, { c with entries := (c.entries.filter fun f => f.service != service) ++ [e], stored := c.stored + 1 })

def readTarget (targetUrl : String) : Except String Url :=
  match Url.parse targetUrl with
  | .error e => .error e.message
  | .ok u =>
    if u.scheme = "http".toList ∨ u.scheme = "https".toList then
      if u.authority.isSome then .ok u else .error "missing host"
    else .error ("unsupported scheme '" ++ String.ofList u.scheme ++ "'")

/-- Builds and stores an entry. A target that requests cannot be forwarded to changes nothing. -/
def put (c : Cache) (now : Nat) (service targetUrl : String) (strategy : Strategy) :
    Except ProxyError (CacheEntry × Cache) :=
  match readTarget targetUrl with
  | .ok target => .ok (c.insert now service target strategy)
  | .error reason =>
    .error (.internal ("service '" ++ service ++ "' has an unusable target URL: " ++ reason))

def clear (c : Cache) : Cache := { c with entries := [] }

def evictExpired (c : Cache) (now : Nat) : Cache :=
  { c with entries := c.entries.filter fun e => !e.isExpired c.ttl now }

def expiredCount (c : Cache) (now : Nat) : Nat := c.size - (c.evictExpired now).size

end Cache
end CredentialGateway
