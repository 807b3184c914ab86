import CredentialGateway.Proofs.Cache.Basic
import CredentialGateway.Proofs.Gateway.Alike
import CredentialGateway.Proofs.Gateway.Lockstep

/-! A gateway with a cache beside one that builds every entry anew: as long as the directory backs all that is cached,
they find entries that forward alike, and stay in step. -/

namespace CredentialGateway

structure CacheEntry.Alike (a b : CacheEntry) : Prop where
  service : a.service = b.service
  target : a.target = b.target
  strategy : a.strategy = b.strategy

/-- An entry is the one that a definition in the directory asks for. -/
def Directory.Backs (d : Directory) (e : CacheEntry) : Prop :=
  ∃ definition, d.lookup e.service = .ok definition ∧ Cache.readTarget definition.targetUrl = .ok e.target ∧
    e.strategy = .ofCredentials definition.credentials

namespace Gateway

structure Mirrors (s t : State) : Prop where
  session : s.toSession.Alike t.toSession
  directory : ∃ d, s.metadata = .directory d ∧ t.metadata = .directory d ∧ ∀ e ∈ s.cache.entries, d.Backs e

variable {s t s' t' : State} {d : Directory}

theorem attempt_congr {g : Gateway} {a b : CacheEntry} (h : a.Alike b) {o : Outbound} :
    g.attempt a o = g.attempt b o := by
  obtain ⟨service, target, strategy, created, serial⟩ := a
  obtain ⟨rfl, rfl, rfl⟩ := h
  rfl

theorem rebuildEntry_of_backs {e : CacheEntry} (hs : s.metadata = .directory d) (he : d.Backs e) :
    ∃ fresh, (State.rebuildEntry e.service s).1 = .ok fresh ∧ e.Alike fresh := by
  obtain ⟨definition, hdefinition, htarget, hstrategy⟩ := he
  simp only [State.rebuildEntry, Metadata.lookup_of_directory hs, hdefinition, State.storeEntry, Cache.put, htarget]
  exact ⟨_, rfl, rfl, rfl, hstrategy⟩

namespace Mirrors

theorem record_left (h : Mirrors s t) (m : Metric) : Mirrors (s.record m) t :=
  ⟨h.session.record_left m, h.directory⟩

theorem record_right (h : Mirrors s t) (m : Metric) : Mirrors s (t.record m) :=
  ⟨h.session.record_right m, h.directory⟩

theorem withCache_left (h : Mirrors s t) {c : Cache} (hc : ∀ e ∈ c.entries, e ∈ s.cache.entries) :
    Mirrors (s.withCache c) t := by
  obtain ⟨d, hs, ht, hbacks⟩ := h.directory
  exact ⟨h.session.record_left _, d, hs, ht, fun e he => hbacks e (hc e he)⟩

theorem withCache_right (h : Mirrors s t) (c : Cache) : Mirrors s (t.withCache c) := by
  obtain ⟨d, hs, ht, hbacks⟩ := h.directory
  exact ⟨h.session.record_right _, d, hs, ht, hbacks⟩

theorem onSession {α : Type} (h : Mirrors s t) {act : Session → α × Session} (hact : Oblivious act) :
    ∃ a s' t', s.onSession act = (a, s') ∧ t.onSession act = (a, t') ∧ Mirrors s' t' := by
  obtain ⟨a, x, y, hx, hy, halike⟩ := hact.pairs h.session
  refine ⟨a, { s with toSession := x }, { t with toSession := y }, ?_, ?_, halike, h.directory⟩
  · simp only [State.onSession, hx]
  · simp only [State.onSession, hy]

theorem rebuildEntry (h : Mirrors s t) (id : String) :
    OutcomeRel CacheEntry.Alike (State.rebuildEntry id s).1 (State.rebuildEntry id t).1 ∧
      Mirrors (State.rebuildEntry id s).2 (State.rebuildEntry id t).2 := by
  obtain ⟨d, hs, ht, hbacks⟩ := h.directory
  simp only [State.rebuildEntry, Metadata.lookup_of_directory hs, Metadata.lookup_of_directory ht]
  rcases hdefinition : d.lookup id with err | definition
  · exact ⟨.error _, h.session, d, hs, ht, hbacks⟩
  · simp only [State.storeEntry, Cache.put]
    rcases htarget : Cache.readTarget definition.targetUrl with reason | target
    · exact ⟨.error _, h.session, d, hs, ht, hbacks⟩
    · refine ⟨.ok ⟨rfl, rfl, rfl⟩, (h.session.record_left _).record_right _, d, hs, ht, fun e he => ?_⟩
      rcases List.mem_append.mp he with hold | hnew
      · exact hbacks e (List.mem_filter.mp hold).1
      · obtain rfl := List.mem_singleton.mp hnew
        exact ⟨definition, hdefinition, htarget, rfl⟩

theorem rebuildEntry_right (h : Mirrors s t) (id : String) : Mirrors s (State.rebuildEntry id t).2 := by
  obtain ⟨d, hs, ht, hbacks⟩ := h.directory
  unfold State.rebuildEntry
  dsimp only
  split
  · exact ⟨h.session, d, hs, ht, hbacks⟩
  · unfold State.storeEntry
    split
    · exact ⟨h.session, d, hs, ht, hbacks⟩
    · exact ⟨h.session.record_right _, d, hs, ht, hbacks⟩

theorem cachedEntry (h : Mirrors s t) (id : String) :
    Mirrors (s.cachedEntry id).2 t ∧ ∀ e, (s.cachedEntry id).1 = some e → e ∈ s.cache.entries ∧ e.service = id := by
  unfold State.cachedEntry
  refine ⟨record_left ?_ _, fun e hsome => Cache.find?_spec (Cache.find?_of_get hsome)⟩
  split
  · exact h.withCache_left fun _ he => Cache.mem_of_mem_get he
  · exact h

theorem entryFor (h : Mirrors s t) (id : String) :
    OutcomeRel CacheEntry.Alike (State.entryFor id s).1 (State.rebuildEntry id t).1 ∧
      Mirrors (State.entryFor id s).2 (State.rebuildEntry id t).2 := by
  obtain ⟨hcached, hfound⟩ := h.cachedEntry id
  unfold State.entryFor
  rcases hentry : s.cachedEntry id with ⟨found | e, u⟩
  · rw [hentry] at hcached
    exact hcached.rebuildEntry id
  · rw [hentry] at hcached hfound
    obtain ⟨hmem, rfl⟩ := hfound e rfl
    obtain ⟨d, hs, ht, hbacks⟩ := h.directory
    obtain ⟨fresh, hfresh, halike⟩ := rebuildEntry_of_backs ht (hbacks e hmem)
    rw [hfresh]
    exact ⟨.ok halike, hcached.rebuildEntry_right e.service⟩

theorem reset {a b : CacheEntry} (h : Mirrors s t) (hab : a.Alike b) :
    Mirrors { s with toSession := s.toSession.reset a.strategy } { t with toSession := t.toSession.reset b.strategy } := by
  -- The strategies agree, so both drop the same secrets.
  rw [hab.strategy]
  exact ⟨h.session.reset b.strategy, h.directory⟩

theorem attempt {a b : CacheEntry} (h : Mirrors s t) (hab : a.Alike b) (g : Gateway) (o : Outbound) :
    InStep Mirrors (s.onSession (g.attempt a o)) (t.onSession (g.attempt b o)) := by
  obtain ⟨result, u, v, hu, hv, huv⟩ := h.onSession (oblivious_attempt g a o)
  rw [attempt_congr hab] at hv
  rw [hu, hv]
  exact ⟨rfl, huv⟩

theorem finish (h : Mirrors s t) (received : Received) :
    InStep Mirrors (Gateway.finish received s) (Gateway.finish received t) := by
  unfold Gateway.finish
  rw [h.session.world]
  exact ⟨rfl, ⟨rfl, h.session.tokens, h.session.csrf, h.session.attempts⟩, h.directory⟩

theorem reload (h : Mirrors s t) (services : List Service) : Mirrors (s.reload services) (t.reload services) := by
  obtain ⟨d, hs, ht, -⟩ := h.directory
  unfold State.reload
  rw [hs, ht]
  exact ⟨⟨h.session.world, h.session.tokens, h.session.csrf, h.session.attempts⟩, .ofServices services, rfl, rfl,
    fun e he => nomatch he⟩

theorem advance (h : Mirrors s t) (millis : Nat) : Mirrors (s.advance millis) (t.advance millis) := by
  have hworld : (s.toSession.advance millis).world = (t.toSession.advance millis).world :=
    congrArg (fun w => World.advance w millis) h.session.world
  exact ⟨⟨hworld, h.session.tokens, h.session.csrf, h.session.attempts⟩, h.directory⟩

theorem evictExpired (h : Mirrors s t) : Mirrors s.evictExpired t.evictExpired :=
  (h.withCache_left fun _ he => (List.mem_filter.mp he).1).withCache_right _

theorem lockstep (g : Gateway) : Lockstep g State.entryFor State.rebuildEntry Mirrors CacheEntry.Alike where
  now _ _ h := congrArg World.clock h.session.world
  advance _ _ millis h := h.advance millis
  record _ _ m h := (h.record_left m).record_right m
  found _ _ id h := h.entryFor id
  rebuilt _ _ id h := h.rebuildEntry id
  reset _ _ _ _ h hab := h.reset hab
  attempt _ _ _ _ o h hab := h.attempt hab g o
  finish _ _ received h := h.finish received

end Mirrors
end Gateway

end CredentialGateway
