import CredentialGateway.Proofs.Network.Veil
import CredentialGateway.Server.Basic

/-! Two gateways in lockstep. If they find related entries, and each attempt, reset and record keeps them in related
states, then they give the same for every request. -/

namespace CredentialGateway

open Http

namespace Gateway

/-- The steps in which requests are handled, as two gateways take them: `R` relates their states, `E` their entries. -/
structure Lockstep (g : Gateway) (find find' : Finding) (R : State → State → Prop) (E : CacheEntry → CacheEntry → Prop) :
    Prop where
  now : ∀ s t, R s t → s.now = t.now
  advance : ∀ s t millis, R s t → R (s.advance millis) (t.advance millis)
  record : ∀ s t m, R s t → R (s.record m) (t.record m)
  found : ∀ s t id, R s t → OutcomeRel E (find id s).1 (find' id t).1 ∧ R (find id s).2 (find' id t).2
  rebuilt : ∀ s t id, R s t → OutcomeRel E (State.rebuildEntry id s).1 (State.rebuildEntry id t).1 ∧
    R (State.rebuildEntry id s).2 (State.rebuildEntry id t).2
  reset : ∀ s t a b, R s t → E a b →
    R { s with toSession := s.toSession.reset a.strategy } { t with toSession := t.toSession.reset b.strategy }
  attempt : ∀ s t a b o, R s t → E a b → InStep R (s.onSession (g.attempt a o)) (t.onSession (g.attempt b o))
  finish : ∀ s t received, R s t → InStep R (finish received s) (finish received t)

namespace Lockstep

variable {g : Gateway} {find find' : Finding} {R : State → State → Prop} {E : CacheEntry → CacheEntry → Prop}
  {s t : State} {a b : CacheEntry}

theorem replay (hg : Lockstep g find find' R E) (hst : R s t) (hab : E a b) (o : Outbound) (id : String) :
    InStep R (g.replay a o (State.rebuildEntry id) s) (g.replay b o (State.rebuildEntry id) t) := by
  obtain ⟨hfound, hafter⟩ := hg.rebuilt _ _ id (hg.reset s t a b hst hab)
  unfold Gateway.replay
  rcases hs : State.rebuildEntry id { s with toSession := s.toSession.reset a.strategy } with ⟨x, s'⟩
  rcases ht : State.rebuildEntry id { t with toSession := t.toSession.reset b.strategy } with ⟨y, t'⟩
  rw [hs, ht] at hfound hafter
  cases hfound with
  | error e =>
    simp only [hs, ht]
    exact ⟨rfl, hg.record _ _ _ hafter⟩
  | @ok a' b' hfresh =>
    obtain ⟨result, u, v, hu, hv, huv⟩ := (hg.attempt s' t' a' b' o hafter hfresh).pairs
    simp only [hs, ht, hu, hv]
    exact ⟨rfl, hg.record _ _ _ huv⟩

theorem forward (hg : Lockstep g find find' R E) (hst : R s t) (r : Request) :
    InStep R (forwardBy find g r s) (forwardBy find' g r t) := by
  have harrived : R (g.awaitBody r s) (g.awaitBody r t) := hg.advance s t (g.arrival r) hst
  unfold forwardBy
  dsimp only
  split
  · exact ⟨rfl, harrived⟩
  · rename_i id o _
    obtain ⟨hfound, hafter⟩ := hg.found _ _ id harrived
    rcases hs : find id (g.awaitBody r s) with ⟨x, s'⟩
    rcases ht : find' id (g.awaitBody r t) with ⟨y, t'⟩
    rw [hs, ht] at hfound hafter
    cases hfound with
    | error e => exact ⟨rfl, hafter⟩
    | @ok a b hab =>
      obtain ⟨result, u, v, hu, hv, huv⟩ := (hg.attempt s' t' a b o hafter hab).pairs
      simp only [hu, hv]
      rcases result with e | first
      · exact ⟨rfl, huv⟩
      · dsimp only [Retrier.onResponse]
        split
        · exact ⟨rfl, huv⟩
        · exact hg.replay huv hab o id

theorem dispatch (hg : Lockstep g find find' R E) (hst : R s t) (r : Request) :
    InStep R (dispatchBy find g r s) (dispatchBy find' g r t) := by
  obtain ⟨result, u, v, hu, hv, huv⟩ := (hg.forward hst r).pairs
  unfold dispatchBy
  rw [hu, hv]
  rcases result with e | received
  · exact ⟨rfl, huv⟩
  · obtain ⟨response, x, y, hx, hy, hxy⟩ := (hg.finish u v received huv).pairs
    dsimp only
    rw [hx, hy]
    exact ⟨rfl, hxy⟩

theorem handle (hg : Lockstep g find find' R E) (hst : R s t) (r : Request) :
    InStep R (Server.handleBy find g r s) (Server.handleBy find' g r t) := by
  obtain ⟨result, u, v, hu, hv, huv⟩ := (hg.forward hst r).pairs
  unfold Server.handleBy
  rw [hu, hv, hg.now s t hst]
  dsimp only
  rw [hg.now u v huv]
  rcases result with e | received
  · exact ⟨rfl, hg.record u v _ huv⟩
  · exact hg.finish _ _ received (hg.record u v _ huv)

theorem serve (hg : Lockstep g find find' R E) (hst : R s t) (fresh : HeaderValue) (r : Request) :
    InStep R (Server.serveBy find g fresh r s) (Server.serveBy find' g fresh r t) := by
  unfold Server.serveBy
  dsimp only
  split
  · obtain ⟨response, u, v, hu, hv, huv⟩ := (hg.handle hst (Server.withRequestId fresh r)).pairs
    rw [hu, hv]
    exact ⟨rfl, huv⟩
  · exact ⟨rfl, hst⟩

end Lockstep
end Gateway
end CredentialGateway
