import CredentialGateway.Cache.Basic

/-! The sweeper, which removes expired entries at fixed times, and a cache with its clock that is swept by one. -/

namespace CredentialGateway

/-- A sweeper ticks at whole multiples of its interval from its start, however late it is woken. -/
structure Sweeper where
  interval : Nat
  next : Nat
  deriving DecidableEq, Repr

namespace Sweeper

/-- The tick at the start itself sweeps nothing. -/
def start (interval now : Nat) : Sweeper := ⟨interval, now + interval⟩

def isDue (s : Sweeper) (now : Nat) : Bool := s.next ≤ now

def advance (s : Sweeper) (now : Nat) : Sweeper :=
  -- However many ticks were missed, the next one is back on the grid.
  if s.isDue now then { s with next := s.next + ((now - s.next) / s.interval + 1) * s.interval } else s

end Sweeper

inductive Sweeping
  | absent
  | running (s : Sweeper)
  | ended
  deriving DecidableEq, Repr

structure SweptCache where
  cache : Cache
  clock : Nat
  sweeping : Sweeping
  deriving DecidableEq, Repr

namespace SweptCache

/-- Lets time pass in one jump; then the sweeper does what is due. -/
def advance (s : SweptCache) (millis : Nat) : SweptCache :=
  let now := s.clock + millis
  match s.sweeping with
  | .running w =>
    { cache := if w.isDue now then s.cache.evictExpired now else s.cache
      clock := now
      sweeping := .running (w.advance now) }
  | _ => { s with clock := now }

def shutdown (s : SweptCache) : SweptCache :=
  match s.sweeping with
  | .absent => s
  | _ => { s with sweeping := .ended }

end SweptCache
end CredentialGateway
