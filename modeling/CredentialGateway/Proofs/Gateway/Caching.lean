import CredentialGateway.Proofs.Cache.Sound
import CredentialGateway.Proofs.Gateway.Acts
import CredentialGateway.Proofs.Gateway.Kept

/-! What each act of a gateway does to its cache: where entries come from, and which of them stay. -/

namespace CredentialGateway.Gateway

open Http

variable {g : Gateway} {s t : State} {a : Act} {e f : CacheEntry} {id : String}

theorem cachedEntry_cases (id : String) (s : State) :
    (∃ e, s.cache.find? id = some e ∧ e.isExpired s.cache.ttl s.now = false ∧
        s.cachedEntry id = (some e, s.record (.cacheLookup true))) ∨
      (s.cache.find? id = none ∧ s.cachedEntry id = (none, s.record (.cacheLookup false))) ∨
      ∃ e, s.cache.find? id = some e ∧ e.isExpired s.cache.ttl s.now = true ∧
        s.cachedEntry id = (none, (s.withCache (s.cache.removeIfSame e)).record (.cacheLookup false)) := by
  rcases hfind : s.cache.find? id with - | e
  · have hget : s.cache.get s.now id = (none, s.cache) := by simp only [Cache.get, hfind]
    exact .inr (.inl ⟨rfl, by simp [State.cachedEntry, hget, hfind]⟩)
  · rcases hexpired : e.isExpired s.cache.ttl s.now
    · have hget : s.cache.get s.now id = (some e, s.cache) := by simp [Cache.get, hfind, hexpired]
      exact .inl ⟨e, rfl, hexpired, by simp [State.cachedEntry, hget]⟩
    · have hget : s.cache.get s.now id = (none, s.cache.removeIfSame e) := by simp [Cache.get, hfind, hexpired]
      exact .inr (.inr ⟨e, rfl, hexpired, by simp [State.cachedEntry, hget, hfind]⟩)

theorem rebuildEntry_cases (id : String) (s : State) :
    (∃ e, s.rebuildEntry id = (.error e, { s with lookups := s.lookups + 1 }) ∧ ∀ reason, e ≠ .invalidRequest reason) ∨
      ∃ target strategy, s.rebuildEntry id = (.ok (s.cache.insert s.now id target strategy).1,
        { s with lookups := s.lookups + 1 }.withCache (s.cache.insert s.now id target strategy).2) := by
  rcases hlookup : s.metadata.lookup s.lookups id with e | definition
  · have hbuild : s.rebuildEntry id = (.error (.lookup id e), { s with lookups := s.lookups + 1 }) := by
      simp only [State.rebuildEntry, hlookup]
    exact .inl ⟨_, hbuild, by simp⟩
  · rcases htarget : Cache.readTarget definition.targetUrl with reason | target
    · left
      simp only [State.rebuildEntry, hlookup, State.storeEntry, Cache.put, htarget]
      exact ⟨_, rfl, by simp⟩
    · right
      simp only [State.rebuildEntry, hlookup, State.storeEntry, Cache.put, htarget]
      exact ⟨target, .ofCredentials definition.credentials, rfl⟩

theorem lookups_rebuildEntry (id : String) (s : State) : (s.rebuildEntry id).2.lookups = s.lookups + 1 := by
  obtain ⟨e, hbuild, -⟩ | ⟨target, strategy, hbuild⟩ := rebuildEntry_cases id s
  · rw [hbuild]
  · rw [hbuild]
    rfl

theorem entryFor_cases (id : String) (s : State) :
    (∃ f ∈ s.cache.live s.now, f.service = id ∧ s.entryFor id = (.ok f, s.record (.cacheLookup true))) ∨
      (s.cachedEntry id).1 = none ∧ (s.cachedEntry id).2.lookups = s.lookups ∧
        s.entryFor id = (s.cachedEntry id).2.rebuildEntry id := by
  unfold State.entryFor
  obtain ⟨f, hfind, hlive, hseek⟩ | ⟨-, hseek⟩ | ⟨f, -, -, hseek⟩ := cachedEntry_cases id s
  · obtain ⟨hmem, hservice⟩ := Cache.find?_spec hfind
    rw [hseek]
    exact .inl ⟨f, Cache.mem_live.mpr ⟨hmem, hlive⟩, hservice, rfl⟩
  · rw [hseek]
    exact .inr ⟨rfl, rfl, rfl⟩
  · rw [hseek]
    exact .inr ⟨rfl, rfl, rfl⟩

theorem world_authorize (g : Gateway) (entry : CacheEntry) (o : Outbound) (x : Session) :
    x.world.Precedes (g.authorize entry o x).2.world := by
  obtain hsame | hsetup := session_authorize g entry o x
  · rw [hsame]
    exact .refl _
  · rw [hsetup]
    exact (Session.kept_precedes g.toReach x.world).setup entry.strategy o.headers (.refl _)

theorem now_perform (g : Gateway) (s : State) (a : Act) : s.now ≤ (a.perform g s).now := by
  cases a with
  | seek id => exact Nat.le_of_eq (congrArg World.clock (untouched_cachedEntry id s).world.symm)
  | build id => exact Nat.le_of_eq (congrArg World.clock (untouched_rebuildEntry id s).world.symm)
  | settle entry o => exact (world_authorize g entry o s.toSession).clock
  | first p | again p =>
    obtain ⟨hworld, -, -⟩ := tryOnce_spec (g := g) (p := p) (s := s) rfl
    exact hworld.clock
  | drop strategy => exact Nat.le_of_eq (congrArg World.clock (Session.world_reset strategy s.toSession).symm)
  | noteRetry _ | noteRequest _ _ _ | reload _ | sweep => exact Nat.le_refl _
  | read received => exact (received.precedes_readBody s.world).clock
  | advance millis => exact Nat.le_add_right _ _

theorem now_after (g : Gateway) (acts : List Act) (s : State) : s.now ≤ (after g acts s).now :=
  after_keeps (P := fun t => s.now ≤ t.now) (fun t a h => h.trans (now_perform g t a)) (Nat.le_refl _) acts

theorem cache_cases (g : Gateway) (s : State) (a : Act) :
    ((a.perform g s).cache = s.cache ∧ ∀ services, a ≠ .reload services) ∨
      (∃ id e, a = .seek id ∧ e ∈ s.cache.entries ∧ e.isExpired s.cache.ttl s.now = true ∧
        (a.perform g s).cache = s.cache.removeIfSame e) ∨
      (∃ id target strategy, a = .build id ∧ (s.rebuildEntry id).1 = .ok (s.cache.insert s.now id target strategy).1 ∧
        (a.perform g s).cache = (s.cache.insert s.now id target strategy).2) ∨
      (∃ services, a = .reload services ∧ (a.perform g s).cache = s.cache.clear) ∨
      a = .sweep ∧ (a.perform g s).cache = s.cache.evictExpired s.now := by
  cases a with
  | seek id =>
    simp only [Act.perform]
    obtain ⟨e, -, -, hseek⟩ | ⟨-, hseek⟩ | ⟨e, hfind, hexpired, hseek⟩ := cachedEntry_cases id s
    · rw [hseek]
      exact .inl ⟨rfl, fun _ h => nomatch h⟩
    · rw [hseek]
      exact .inl ⟨rfl, fun _ h => nomatch h⟩
    · rw [hseek]
      exact .inr (.inl ⟨id, e, rfl, (Cache.find?_spec hfind).1, hexpired, rfl⟩)
  | build id =>
    simp only [Act.perform]
    obtain ⟨e, hbuild, -⟩ | ⟨target, strategy, hbuild⟩ := rebuildEntry_cases id s
    · rw [hbuild]
      exact .inl ⟨rfl, fun _ h => nomatch h⟩
    · rw [hbuild]
      exact .inr (.inr (.inl ⟨id, target, strategy, rfl, by rw [hbuild], rfl⟩))
  | reload services => exact .inr (.inr (.inr (.inl ⟨services, rfl, rfl⟩)))
  | sweep => exact .inr (.inr (.inr (.inr ⟨rfl, rfl⟩)))
  | settle _ _ | first _ | again _ | drop _ | noteRetry _ | noteRequest _ _ _ | read _ | advance _ =>
    exact .inl ⟨rfl, fun _ h => nomatch h⟩

theorem ttl_perform (g : Gateway) (s : State) (a : Act) : (a.perform g s).cache.ttl = s.cache.ttl := by
  obtain ⟨h, -⟩ | ⟨_, _, -, -, -, h⟩ | ⟨_, _, _, -, -, h⟩ | ⟨_, -, h⟩ | ⟨-, h⟩ := cache_cases g s a
  all_goals simp only [h, Cache.removeIfSame, Cache.insert, Cache.clear, Cache.evictExpired]

theorem ttl_after (g : Gateway) (acts : List Act) (s : State) : (after g acts s).cache.ttl = s.cache.ttl :=
  after_keeps (P := fun t => t.cache.ttl = s.cache.ttl) (fun t a h => (ttl_perform g t a).trans h) rfl acts

theorem sound_perform (h : s.cache.Sound s.now) (g : Gateway) (a : Act) :
    (a.perform g s).cache.Sound (a.perform g s).now := by
  have hsound : (a.perform g s).cache.Sound s.now := by
    obtain ⟨hc, -⟩ | ⟨id, e, -, -, -, hc⟩ | ⟨id, target, strategy, -, -, hc⟩ | ⟨services, -, hc⟩ | ⟨-, hc⟩ :=
      cache_cases g s a
    · rwa [hc]
    · rw [hc]
      exact h.filter _
    · rw [hc]
      exact h.insert id target strategy
    · rw [hc]
      exact .clear s.now
    · rw [hc]
      exact h.filter _
  exact hsound.mono (now_perform g s a)

theorem sound_after (h : s.cache.Sound s.now) (g : Gateway) (acts : List Act) :
    (after g acts s).cache.Sound (after g acts s).now :=
  after_keeps (P := fun t => t.cache.Sound t.now) (fun _ a h => sound_perform h g a) h acts

theorem mem_of_perform (h : f ∈ (a.perform g s).cache.entries) :
    (f ∈ s.cache.entries ∧ ∀ services, a ≠ .reload services) ∨
      a = .build f.service ∧ (s.rebuildEntry f.service).1 = .ok f ∧ f.created = s.now := by
  obtain ⟨hc, ha⟩ | ⟨id, e, rfl, -, -, hc⟩ | ⟨id, target, strategy, rfl, hbuild, hc⟩ | ⟨services, -, hc⟩ | ⟨rfl, hc⟩ :=
    cache_cases g s a
  · rw [hc] at h
    exact .inl ⟨h, ha⟩
  · rw [hc] at h
    exact .inl ⟨(List.mem_filter.mp h).1, fun _ h => nomatch h⟩
  · rw [hc] at h
    obtain hold | hnew := List.mem_append.mp h
    · exact .inl ⟨(List.mem_filter.mp hold).1, fun _ h => nomatch h⟩
    · obtain rfl := List.mem_singleton.mp hnew
      exact .inr ⟨rfl, hbuild, rfl⟩
  · rw [hc] at h
    cases h
  · rw [hc] at h
    exact .inl ⟨(List.mem_filter.mp h).1, fun _ h => nomatch h⟩

theorem stays_perform (h : s.cache.Sound s.now) (hf : f ∈ s.cache.entries) (hlive : f.isExpired s.cache.ttl s.now = false)
    (ha : ∀ services, a ≠ .reload services) :
    ∃ f' ∈ (a.perform g s).cache.entries, f'.service = f.service ∧ f.created ≤ f'.created := by
  obtain ⟨hc, -⟩ | ⟨id, e, rfl, he, hexpired, hc⟩ | ⟨id, target, strategy, rfl, -, hc⟩ | ⟨services, rfl, -⟩ | ⟨rfl, hc⟩ :=
    cache_cases g s a
  · rw [hc]
    exact ⟨f, hf, rfl, Nat.le_refl _⟩
  · rw [hc]
    have hne : f ≠ e := by
      rintro rfl
      rw [hlive] at hexpired
      cases hexpired
    exact ⟨f, h.mem_removeIfSame hf he hne, rfl, Nat.le_refl _⟩
  · rw [hc]
    by_cases hid : f.service = id
    · exact ⟨_, List.mem_append_right _ List.mem_cons_self, hid.symm, h.created f hf⟩
    · have hmem : f ∈ s.cache.entries.filter fun x => x.service != id := List.mem_filter.mpr ⟨hf, by simpa using hid⟩
      exact ⟨f, List.mem_append_left _ hmem, rfl, Nat.le_refl _⟩
  · exact absurd rfl (ha services)
  · rw [hc]
    exact ⟨f, Cache.mem_live.mpr ⟨hf, hlive⟩, rfl, Nat.le_refl _⟩

theorem cache_sound_start (c : Config) (metadata : Metadata) :
    (State.start c metadata).cache.Sound (State.start c metadata).now := Cache.sound_empty _ _

end CredentialGateway.Gateway
