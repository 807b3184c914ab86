import CredentialGateway.Proofs.Gateway.Course
import CredentialGateway.Proofs.Gateway.Mirror
import CredentialGateway.Proofs.Gateway.Served

/-! What finding an entry leaves alone, and what it finds: nothing is sent for it and no secret comes or goes, and as
long as a directory backs the cache, it also backs what is found. -/

namespace CredentialGateway

structure Session.Untouched (s t : Session) : Prop where
  world : t.world = s.world
  tokens : t.tokens = s.tokens
  csrf : t.csrf = s.csrf

theorem Session.Untouched.refl (s : Session) : s.Untouched s := ⟨rfl, rfl, rfl⟩

theorem Session.Untouched.trans {s t u : Session} (h : s.Untouched t) (h' : t.Untouched u) : s.Untouched u :=
  ⟨h'.world.trans h.world, h'.tokens.trans h.tokens, h'.csrf.trans h.csrf⟩

theorem Session.world_reset (strategy : Strategy) (s : Session) : (s.reset strategy).world = s.world := by
  unfold reset
  split <;> split <;> rfl

theorem Directory.Backs.alike {d : Directory} {a b : CacheEntry} (ha : d.Backs a) (hb : d.Backs b)
    (hservice : a.service = b.service) : a.Alike b := by
  obtain ⟨definition, hdefinition, htarget, hstrategy⟩ := ha
  obtain ⟨other, hother, htarget', hstrategy'⟩ := hb
  obtain rfl : definition = other := Except.ok.inj (hdefinition.symm.trans (hservice ▸ hother))
  exact ⟨hservice, Except.ok.inj (htarget.symm.trans htarget'), hstrategy.trans hstrategy'.symm⟩

namespace Gateway

variable {s t : State} {d : Directory} {e : CacheEntry} {id : String}

theorem untouched_rebuildEntry (id : String) (s : State) :
    s.toSession.Untouched (State.rebuildEntry id s).2.toSession := by
  unfold State.rebuildEntry
  dsimp only
  split
  · exact .refl _
  · unfold State.storeEntry
    split <;> exact ⟨rfl, rfl, rfl⟩

theorem untouched_cachedEntry (id : String) (s : State) :
    s.toSession.Untouched (State.cachedEntry id s).2.toSession := by
  unfold State.cachedEntry
  dsimp only
  split <;> exact ⟨rfl, rfl, rfl⟩

theorem untouched_entryFor (id : String) (s : State) : s.toSession.Untouched (State.entryFor id s).2.toSession := by
  have hcached := untouched_cachedEntry id s
  unfold State.entryFor
  split
  · rename_i heq
    rwa [heq] at hcached
  · rename_i t heq
    rw [heq] at hcached
    exact hcached.trans (untouched_rebuildEntry id t)

theorem metadata_rebuildEntry (id : String) (s : State) : (State.rebuildEntry id s).2.metadata = s.metadata := by
  unfold State.rebuildEntry
  dsimp only
  split
  · rfl
  · unfold State.storeEntry
    split <;> rfl

theorem cachedEntry_spec {found : Option CacheEntry} (h : s.cachedEntry id = (found, t)) :
    t.metadata = s.metadata ∧ ∀ e, found = some e → e ∈ s.cache.entries ∧ e.service = id := by
  have hmem (e : CacheEntry) (he : (s.cachedEntry id).1 = some e) := Cache.find?_spec (Cache.find?_of_get he)
  have hmetadata := metadata_cachedEntry s id
  rw [h] at hmem hmetadata
  exact ⟨hmetadata, hmem⟩

theorem metadata_entryFor (id : String) (s : State) : (State.entryFor id s).2.metadata = s.metadata := by
  unfold State.entryFor
  split
  · rename_i heq
    exact (cachedEntry_spec heq).1
  · rename_i t heq
    exact (metadata_rebuildEntry id t).trans (cachedEntry_spec heq).1

theorem metadata_settle {g : Gateway} {service : String} {o : Outbound} {entry : CacheEntry}
    {outcome : Except ProxyError Ready} (h : g.settle service o entry s = (outcome, t)) : t.metadata = s.metadata := by
  rw [state_settle h]

theorem metadata_prepare {g : Gateway} {r : Http.Request} {outcome : Except ProxyError Ready}
    (h : g.prepare r s = (outcome, t)) : t.metadata = s.metadata := by
  obtain rfl | ⟨service, o, -, hentry⟩ := prepare_cases h
  · rfl
  · have hfound := metadata_entryFor service (g.awaitBody r s)
    obtain rfl | ⟨entry, u, hok, hsettle⟩ := hentry
    · exact hfound
    · rw [hok] at hfound
      exact (metadata_settle hsettle).trans hfound

theorem metadata_tryOnce {g : Gateway} {p : Ready} {result : Except ProxyError Received}
    (h : g.tryOnce p s = (result, t)) : t.metadata = s.metadata := by
  cases h
  rfl

theorem metadata_renew {g : Gateway} {p : Ready} {outcome : Except ProxyError Ready}
    (h : g.renew p s = (outcome, t)) : t.metadata = s.metadata := by
  have hfound := metadata_rebuildEntry p.service { s with toSession := s.toSession.reset p.entry.strategy }
  obtain rfl | ⟨entry, u, hok, hsettle⟩ := renew_cases h
  · exact hfound
  · rw [hok] at hfound
    exact (metadata_settle hsettle).trans hfound

theorem metadata_forward (g : Gateway) (r : Http.Request) (s : State) : (g.forward r s).2.metadata = s.metadata := by
  obtain ⟨made, hcourse⟩ := forward_course g r s
  generalize (g.forward r s).1 = last at hcourse
  generalize (g.forward r s).2 = after at hcourse
  cases hcourse with
  | refused prepared => exact metadata_prepare prepared
  | single prepared first _ => exact (metadata_tryOnce first).trans (metadata_prepare prepared)
  | @stranded p t u v result e prepared first _ renewed =>
    calc v.metadata = u.metadata := metadata_renew renewed
      _ = t.metadata := metadata_tryOnce first
      _ = s.metadata := metadata_prepare prepared
  | @renewed p q t u v w result _ prepared first _ renewed second =>
    calc w.metadata = v.metadata := metadata_tryOnce second
      _ = u.metadata := metadata_renew renewed
      _ = t.metadata := metadata_tryOnce first
      _ = s.metadata := metadata_prepare prepared

def Builds (m : Metadata) (turn : Nat) (id : String) (e : CacheEntry) : Prop :=
  e.service = id ∧ ∃ definition, m.lookup turn id = .ok definition ∧
    Cache.readTarget definition.targetUrl = .ok e.target ∧ e.strategy = .ofCredentials definition.credentials

theorem rebuildEntry_spec {result : Except ProxyError CacheEntry} (h : State.rebuildEntry id s = (result, t)) :
    t.lookups = s.lookups + 1 ∧ ∀ e, result = .ok e → Builds s.metadata s.lookups id e := by
  unfold State.rebuildEntry at h
  dsimp only at h
  split at h
  · cases h
    exact ⟨rfl, fun _ he => nomatch he⟩
  · rename_i definition hdefinition
    unfold State.storeEntry Cache.put at h
    rcases htarget : Cache.readTarget definition.targetUrl with reason | target
    · simp only [htarget] at h
      cases h
      exact ⟨rfl, fun _ he => nomatch he⟩
    · simp only [htarget] at h
      cases h
      refine ⟨rfl, fun e he => ?_⟩
      cases he
      exact ⟨rfl, definition, hdefinition, htarget, rfl⟩

theorem backs_of_rebuildEntry (hd : s.metadata = .directory d) (h : State.rebuildEntry id s = (.ok e, t)) :
    d.Backs e ∧ e.service = id := by
  obtain ⟨-, hbuilds⟩ := rebuildEntry_spec h
  obtain ⟨hservice, definition, hdefinition, htarget, hstrategy⟩ := hbuilds e rfl
  rw [Metadata.lookup_of_directory hd, ← hservice] at hdefinition
  exact ⟨⟨definition, hdefinition, htarget, hstrategy⟩, hservice⟩

theorem backs_of_entryFor (hd : s.metadata = .directory d) (hbacks : ∀ f ∈ s.cache.entries, d.Backs f)
    (h : State.entryFor id s = (.ok e, t)) : d.Backs e ∧ e.service = id := by
  unfold State.entryFor at h
  split at h
  · rename_i found u heq
    cases h
    obtain ⟨hmem, hservice⟩ := (cachedEntry_spec heq).2 e rfl
    exact ⟨hbacks e hmem, hservice⟩
  · rename_i u heq
    exact backs_of_rebuildEntry ((cachedEntry_spec heq).1.trans hd) h

theorem entryFor_of_backs (hd : s.metadata = .directory d) (hbacks : ∀ f ∈ s.cache.entries, d.Backs f)
    (he : d.Backs e) : ∃ found, (State.entryFor e.service s).1 = .ok found ∧ found.Alike e := by
  unfold State.entryFor
  split
  · rename_i found u heq
    obtain ⟨hmem, hservice⟩ := (cachedEntry_spec heq).2 found rfl
    exact ⟨found, rfl, (hbacks found hmem).alike he hservice⟩
  · rename_i u heq
    have hdirectory := (cachedEntry_spec heq).1.trans hd
    obtain ⟨fresh, hfresh, -⟩ := rebuildEntry_of_backs hdirectory he
    have hpair : State.rebuildEntry e.service u = (.ok fresh, (State.rebuildEntry e.service u).2) := Prod.ext hfresh rfl
    obtain ⟨hback, hservice⟩ := backs_of_rebuildEntry hdirectory hpair
    exact ⟨fresh, hfresh, hback.alike he hservice⟩

end Gateway
end CredentialGateway
