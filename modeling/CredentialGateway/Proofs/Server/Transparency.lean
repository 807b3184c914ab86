import CredentialGateway.Proofs.Gateway.Mirror
import CredentialGateway.Proofs.Server.Run

/-! The cache cannot be seen from outside: a server that builds the entry of every request anew gives the same answers
and sends the same requests. -/

namespace CredentialGateway

open Http

namespace Server
open Gateway

theorem Event.rel_refl (e : Event) : e.Rel Eq e := by
  cases e with
  | request fresh r => exact .request fresh r
  | dispatch r => exact .dispatch r
  | reload services => exact .reload rfl
  | advance millis => exact .advance millis
  | sweep => exact .sweep

theorem reactAll_mirrors {s t : State} (h : Mirrors s t) (g : Gateway) (es : List Event) :
    (reactAll State.entryFor g es s).1 = (reactAll State.rebuildEntry g es t).1 ∧
      Mirrors (reactAll State.entryFor g es s).2 (reactAll State.rebuildEntry g es t).2 := by
  have hlockstep : Lockstep g State.entryFor State.rebuildEntry Mirrors CacheEntry.Alike Eq :=
    { Mirrors.lockstep g with
      reload := fun _ _ services _ h hservices => hservices ▸ h.reload services
      sweep := fun _ _ h => h.evictExpired }
  have hes : List.Forall₂ (Event.Rel Eq) es es := List.forall₂_same.mpr fun e _ => e.rel_refl
  have hstep := hlockstep.reactAll h hes
  exact ⟨hstep.result, hstep.after⟩

theorem mirrors_start (c : Config) (d : Directory) :
    Mirrors (State.start c (.directory d)) (State.start c (.directory d)) :=
  ⟨⟨rfl, rfl, rfl, rfl⟩, d, rfl, rfl, fun _ he => nomatch he⟩

/-- The cache cannot be seen from outside: with the services of a configuration, a server gives callers the same, makes
the same attempts and sends the same requests as one that builds every entry anew. Whatever is in the cache, building
it anew from the current services would give the same target and strategy. -/
theorem cache_transparent (network : Network) (c : Config) (es : List Event) :
    let g := Gateway.ofConfig network c
    let start := State.start c (.directory (.ofServices c.services))
    let cached := reactAll State.entryFor g es start
    let uncached := reactAll State.rebuildEntry g es start
    cached.1 = uncached.1 ∧ cached.2.world = uncached.2.world ∧ cached.2.attempts = uncached.2.attempts ∧
      ∀ e ∈ cached.2.cache.entries, ∃ fresh, (cached.2.rebuildEntry e.service).1 = .ok fresh ∧
        fresh.target = e.target ∧ fresh.strategy = e.strategy := by
  intro g start cached uncached
  obtain ⟨hgiven, hmirrors⟩ := reactAll_mirrors (mirrors_start c (.ofServices c.services)) g es
  obtain ⟨d, hs, -, hbacks⟩ := hmirrors.directory
  refine ⟨hgiven, hmirrors.session.world, hmirrors.session.attempts, fun e he => ?_⟩
  obtain ⟨fresh, hfresh, halike⟩ := rebuildEntry_of_backs hs (hbacks e he)
  exact ⟨fresh, hfresh, halike.target.symm, halike.strategy.symm⟩

end Server
end CredentialGateway
