import CredentialGateway.Proofs.Gateway.Caching
import CredentialGateway.Proofs.Gateway.Forwarded
import CredentialGateway.Proofs.Gateway.Unusable

/-! Requests that fail early. One that is no good costs nothing but time, and a search for an entry that fails leaves the
cache with the entries that were alive before. -/

namespace CredentialGateway.Gateway

open Http

structure Fruitless (s t : State) : Prop where
  session : s.toSession.Untouched t.toSession
  attempts : t.attempts = s.attempts
  stored : t.cache.stored = s.cache.stored
  live : t.cache.live t.now = s.cache.live s.now

/-- A search for the entry of a service that came to nothing: whatever follows, the next one looks the definition up,
unless it finds an entry that was alive before. -/
structure Vain (g : Gateway) (id : String) (s t : State) : Prop where
  fruitless : Fruitless s t
  again : ∀ later, .build id ∉ later →
    let x := after g later t
    (x.entryFor id).2.lookups = x.lookups + 1 ∨
      ∃ f ∈ s.cache.live s.now, f.service = id ∧ (x.entryFor id).1 = .ok f

variable {g : Gateway} {r : Request} {s t u : State} {p : Ready} {e : ProxyError} {f : CacheEntry} {id : String}
  {acts : List Act}

theorem Fruitless.trans (h : Fruitless s t) (h' : Fruitless t u) : Fruitless s u :=
  ⟨h.session.trans h'.session, h'.attempts.trans h.attempts, h'.stored.trans h.stored, h'.live.trans h.live⟩

theorem mem_of_after (hacts : .build f.service ∉ acts) (h : f ∈ (after g acts s).cache.entries) : f ∈ s.cache.entries := by
  induction acts generalizing s with
  | nil => exact h
  | cons a as ih =>
    rw [List.mem_cons, not_or] at hacts
    have hmem : f ∈ (a.perform g s).cache.entries := ih hacts.2 h
    obtain ⟨hold, -⟩ | ⟨hbuild, -, -⟩ := mem_of_perform hmem
    · exact hold
    · exact absurd hbuild.symm hacts.1

theorem entryFor_after (g : Gateway) (s : State) (hacts : .build id ∉ acts) :
    ((after g acts s).entryFor id).2.lookups = (after g acts s).lookups + 1 ∨
      ∃ f ∈ s.cache.live s.now, f.service = id ∧ ((after g acts s).entryFor id).1 = .ok f := by
  obtain ⟨f, hlive, rfl, hfound⟩ | ⟨-, hlookups, hbuild⟩ := entryFor_cases id (after g acts s)
  · right
    obtain ⟨hmem, hunexpired⟩ := Cache.mem_live.mp hlive
    rw [ttl_after] at hunexpired
    have hbefore := Cache.not_isExpired_of_le (now_after g acts s) hunexpired
    exact ⟨f, Cache.mem_live.mpr ⟨mem_of_after hacts hmem, hbefore⟩, rfl, congrArg Prod.fst hfound⟩
  · left
    rw [hbuild, lookups_rebuildEntry, hlookups]

theorem Fruitless.vain (h : Fruitless s t) (g : Gateway) (id : String) : g.Vain id s t := by
  refine ⟨h, fun later hlater => ?_⟩
  have hnext := entryFor_after g t hlater
  rwa [h.live] at hnext

theorem Vain.record (h : g.Vain id s t) (m : Metric) : g.Vain id s (t.record m) := by
  obtain ⟨hsession, hattempts, hstored, hlive⟩ := h.fruitless
  have hrecorded : Fruitless s (t.record m) :=
    ⟨⟨hsession.world, hsession.tokens, hsession.csrf⟩, hattempts, hstored, hlive⟩
  exact hrecorded.vain g id

end CredentialGateway.Gateway
