import CredentialGateway.Cache.Basic
import CredentialGateway.Directory

/-! A cache under traffic: any number of requests that look for their entries, the sweeps, and the updates of the
directory, all of which move in steps between which any of the others may move. -/

namespace CredentialGateway.Cache

inductive Stage
  | begun
  /-- The request has found this entry expired, and has not removed it yet. -/
  | expired (e : CacheEntry)
  /-- There is no live entry, and the directory has not been asked yet. -/
  | missed
  /-- The directory has given this definition, and no entry has been put yet. -/
  | building (definition : ServiceDefinition)
  | done (result : Except ProxyError CacheEntry)

structure Visit where
  service : String
  stage : Stage

/-- A removal of all that is expired at the time at which it began. -/
structure Sweep where
  time : Nat
  finished : Bool
  deriving DecidableEq, Repr

structure Traffic where
  cache : Cache
  directory : Directory
  clock : Nat
  visits : List Visit
  sweeps : List Sweep

inductive Step
  | visit (service : String)
  /-- A request comes that wants an entry built anew, whatever is in the cache. -/
  | rebuild (service : String)
  | look (visit : Nat)
  | evict (visit : Nat)
  | ask (visit : Nat)
  | put (visit : Nat)
  | replace (services : List Service)
  | clear
  | beginSweep
  | endSweep (sweep : Nat)
  | advance (millis : Nat)

namespace Traffic

def start (ttl : Nat) (services : List Service) : Traffic := ⟨.empty ttl, .ofServices services, 0, [], []⟩

def moveTo (s : Traffic) (visit : Nat) (stage : Stage) : Traffic :=
  { s with visits := s.visits.modify visit fun v => { v with stage } }

def look (s : Traffic) (visit : Nat) : Traffic :=
  match s.visits[visit]? with
  | some ⟨service, .begun⟩ =>
    match s.cache.find? service with
    | none => s.moveTo visit .missed
    | some e => if e.isExpired s.cache.ttl s.clock then s.moveTo visit (.expired e) else s.moveTo visit (.done (.ok e))
  | _ => s

def evict (s : Traffic) (visit : Nat) : Traffic :=
  match s.visits[visit]? with
  -- The entry that was found may have been replaced since.
  | some ⟨_, .expired e⟩ => { s with cache := s.cache.removeIfSame e }.moveTo visit .missed
  | _ => s

def ask (s : Traffic) (visit : Nat) : Traffic :=
  match s.visits[visit]? with
  | some ⟨service, .missed⟩ =>
    match s.directory.lookup service with
    | .error e => s.moveTo visit (.done (.error (.lookup service e)))
    | .ok definition => s.moveTo visit (.building definition)
  | _ => s

def put (s : Traffic) (visit : Nat) : Traffic :=
  match s.visits[visit]? with
  | some ⟨service, .building definition⟩ =>
    match s.cache.put s.clock service definition.targetUrl (.ofCredentials definition.credentials) with
    | .error e => s.moveTo visit (.done (.error e))
    | .ok (e, cache) => { s with cache }.moveTo visit (.done (.ok e))
  | _ => s

def endSweep (s : Traffic) (sweep : Nat) : Traffic :=
  match s.sweeps[sweep]? with
  | some ⟨time, false⟩ =>
    { s with cache := s.cache.evictExpired time, sweeps := s.sweeps.set sweep ⟨time, true⟩ }
  | _ => s

/-- What a step does; one that its party is not ready for does nothing. -/
def step (s : Traffic) : Step → Traffic
  | .visit service => { s with visits := s.visits ++ [⟨service, .begun⟩] }
  | .rebuild service => { s with visits := s.visits ++ [⟨service, .missed⟩] }
  | .look visit => s.look visit
  | .evict visit => s.evict visit
  | .ask visit => s.ask visit
  | .put visit => s.put visit
  | .replace services => { s with directory := .ofServices services }
  | .clear => { s with cache := s.cache.clear }
  | .beginSweep => { s with sweeps := s.sweeps ++ [⟨s.clock, false⟩] }
  | .endSweep sweep => s.endSweep sweep
  | .advance millis => { s with clock := s.clock + millis }

def run : List Step → Traffic → Traffic
  | [], s => s
  | a :: as, s => run as (s.step a)

end Traffic
end CredentialGateway.Cache
