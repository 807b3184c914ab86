import CredentialGateway.Proofs.Cache.Sound
import CredentialGateway.Proofs.Cache.Traffic
import Mathlib.Data.List.Induction

/-! What lookups and sweeps may remove from a cache under traffic. Between the moment at which one of them finds an entry
expired and the moment at which it removes it, others may have put a new entry in its place; that one is left alone. -/

namespace CredentialGateway.Cache

theorem mem_of_put {c c' : Cache} {now : Nat} {service targetUrl : String} {strategy : Strategy} {e : CacheEntry}
    (h : c.put now service targetUrl strategy = .ok (e, c')) : e ∈ c'.entries := by
  unfold put at h
  split at h
  · cases h
    exact List.mem_append_right _ (List.mem_singleton.mpr rfl)
  · cases h

namespace Traffic

def stored? (s : Traffic) : Step → Option CacheEntry
  | .put visit =>
    match s.visits[visit]? with
    | some ⟨service, .building definition⟩ =>
      match s.cache.put s.clock service definition.targetUrl (.ofCredentials definition.credentials) with
      | .ok (e, _) => some e
      | .error _ => none
    | _ => none
  | _ => none

def displaces (s : Traffic) (e : CacheEntry) : Step → Bool
  | .clear => true
  | a => (s.stored? a).any fun f => f.service == e.service

def spares (e : CacheEntry) : List Step → Traffic → Bool
  | [], _ => true
  | a :: as, s => !s.displaces e a && spares e as (s.step a)

/-- A removal of this entry was decided in the past, when the entry had reached its age: by a request that found it, or by
a sweep that began then. -/
inductive Condemned (ttl : Nat) (s : Traffic) (past : List Step) (e : CacheEntry) : Step → Prop
  | found {before after : List Step} {visit : Nat} (split : past = before ++ .look visit :: after)
    (ready : (run before s).visits[visit]? = some ⟨e.service, .begun⟩)
    (current : (run before s).cache.find? e.service = some e) (old : e.created + ttl ≤ (run before s).clock) :
    Condemned ttl s past e (.evict visit)
  | swept {before after : List Step} (split : past = before ++ .beginSweep :: after)
    (old : e.created + ttl ≤ (run before s).clock) :
    Condemned ttl s past e (.endSweep (run before s).sweeps.length)

def KeepsExpired (s t : Traffic) : Prop :=
  ∀ (i : Nat) (service : String) (e : CacheEntry), t.visits[i]? = some ⟨service, .expired e⟩ →
    s.visits[i]? = some ⟨service, .expired e⟩

inductive Turn (s : Traffic) : Step → Traffic → Prop
  | quiet {a : Step} {t : Traffic} (cache : t.cache = s.cache) (sweeps : t.sweeps = s.sweeps) (clock : s.clock ≤ t.clock)
    (visits : KeepsExpired s t) : Turn s a t
  | finds {visit : Nat} {service : String} {e : CacheEntry} (ready : s.visits[visit]? = some ⟨service, .begun⟩)
    (found : s.cache.find? service = some e) (expired : e.isExpired s.cache.ttl s.clock = true) :
    Turn s (.look visit) (s.moveTo visit (.expired e))
  | evicts {visit : Nat} {service : String} {e : CacheEntry} (ready : s.visits[visit]? = some ⟨service, .expired e⟩) :
    Turn s (.evict visit) ({ s with cache := s.cache.removeIfSame e }.moveTo visit .missed)
  | stores {a : Step} {visit : Nat} {service : String} {target : Url} {strategy : Strategy}
    (stored : s.stored? a = some (s.cache.insert s.clock service target strategy).1) :
    Turn s a ({ s with cache := (s.cache.insert s.clock service target strategy).2 }.moveTo visit
      (.done (.ok (s.cache.insert s.clock service target strategy).1)))
  | clears : Turn s .clear { s with cache := s.cache.clear }
  | begins : Turn s .beginSweep { s with sweeps := s.sweeps ++ [⟨s.clock, false⟩] }
  | sweeps {sweep time : Nat} (ready : s.sweeps[sweep]? = some ⟨time, false⟩) :
    Turn s (.endSweep sweep) { s with cache := s.cache.evictExpired time, sweeps := s.sweeps.set sweep ⟨time, true⟩ }

variable {ttl : Nat} {services : List Service} {past : List Step} {s t : Traffic} {a : Step} {e f : CacheEntry}

theorem keepsExpired_moveTo (stage : Stage) (hstage : ∀ e, stage ≠ .expired e) (s : Traffic) (visit : Nat) :
    KeepsExpired s (s.moveTo visit stage) := by
  intro i service e h
  rcases moveTo_cases h with ⟨-, hmoved, -⟩ | hsame
  · exact absurd hmoved.symm (hstage e)
  · exact hsame

theorem keepsExpired_come (v : Visit) (hv : ∀ e, v.stage ≠ .expired e) (s : Traffic) :
    KeepsExpired s { s with visits := s.visits ++ [v] } := by
  intro i service e h
  rw [List.getElem?_append] at h
  split at h
  · exact h
  · obtain rfl := List.mem_singleton.mp (List.mem_of_getElem? h)
    exact absurd rfl (hv e)

theorem turn (s : Traffic) (a : Step) : Turn s a (s.step a) := by
  have hsame : Turn s a s := .quiet rfl rfl (Nat.le_refl _) fun _ _ _ h => h
  -- A visit that moves on without having found an expired entry leaves everything else alone.
  have hmove {visit : Nat} {stage : Stage} (hstage : ∀ e, stage ≠ .expired e) : Turn s a (s.moveTo visit stage) :=
    .quiet rfl rfl (Nat.le_refl _) (keepsExpired_moveTo stage hstage s visit)
  cases a with
  | visit service => exact .quiet rfl rfl (Nat.le_refl _) (keepsExpired_come ⟨service, .begun⟩ (by simp) s)
  | rebuild service => exact .quiet rfl rfl (Nat.le_refl _) (keepsExpired_come ⟨service, .missed⟩ (by simp) s)
  | replace services => exact .quiet rfl rfl (Nat.le_refl _) fun _ _ _ h => h
  | advance millis => exact .quiet rfl rfl (Nat.le_add_right _ _) fun _ _ _ h => h
  | beginSweep => exact .begins
  | clear => exact .clears
  | look visit =>
    simp only [step, look]
    split
    · rename_i hready
      split
      · exact hmove (by simp)
      · rename_i e hfind
        split
        · rename_i hexpired
          exact .finds hready hfind hexpired
        · exact hmove (by simp)
    · exact hsame
  | evict visit =>
    simp only [step, evict]
    split
    · rename_i hready
      exact .evicts hready
    · exact hsame
  | ask visit =>
    simp only [step, ask]
    split
    · split
      · exact hmove (by simp)
      · exact hmove (by simp)
    · exact hsame
  | put visit =>
    simp only [step, put]
    split
    · rename_i service definition hready
      rcases htarget : readTarget definition.targetUrl with reason | target
      · simp only [Cache.put, htarget]
        exact hmove (by simp)
      · simp only [Cache.put, htarget]
        exact .stores (by simp only [stored?, hready, Cache.put, htarget])
    · exact hsame
  | endSweep sweep =>
    simp only [step, endSweep]
    split
    · rename_i hready
      exact .sweeps hready
    · exact hsame

theorem displaces_of_stored (h : s.stored? a = some f) (hservice : f.service = e.service) : s.displaces e a = true := by
  cases a <;> first | rfl | simpa only [displaces, h, Option.any_some, beq_iff_eq] using hservice

theorem put_of_stored (h : s.stored? a = some e) :
    ∃ visit service definition cache, a = .put visit ∧ s.visits[visit]? = some ⟨service, .building definition⟩ ∧
      s.cache.put s.clock service definition.targetUrl (.ofCredentials definition.credentials) = .ok (e, cache) := by
  cases a with
  | put visit =>
    simp only [stored?] at h
    split at h
    · rename_i service definition hready
      split at h
      · rename_i stored cache hput
        cases h
        exact ⟨visit, service, definition, cache, rfl, hready, hput⟩
      · cases h
    · cases h
  | _ => cases h

theorem mem_of_stored (h : s.stored? a = some e) : e ∈ (s.step a).cache.entries := by
  obtain ⟨visit, service, definition, cache, rfl, hready, hput⟩ := put_of_stored h
  simp only [step, put, hready, hput]
  exact mem_of_put hput

theorem Turn.clock (h : Turn s a t) : s.clock ≤ t.clock := by
  cases h with
  | quiet _ _ hclock _ => exact hclock
  | finds _ _ _ | evicts _ | stores _ | clears | begins | sweeps _ => exact Nat.le_refl _

theorem clock_run (as : List Step) (s : Traffic) : s.clock ≤ (run as s).clock := by
  induction as generalizing s with
  | nil => exact Nat.le_refl _
  | cons a as ih => exact Nat.le_trans (turn s a).clock (ih (s.step a))

theorem Turn.limit (h : Turn s a t) : t.cache.ttl = s.cache.ttl := by
  cases h with
  | quiet hcache _ _ _ => rw [hcache]
  | finds _ _ _ | evicts _ | stores _ | clears | begins | sweeps _ => rfl

theorem Turn.sound (h : Turn s a t) (hs : s.cache.Sound s.clock) : t.cache.Sound t.clock := by
  cases h with
  | quiet hcache _ hclock _ => exact hcache ▸ hs.mono hclock
  | finds _ _ _ | begins => exact hs
  | evicts _ | sweeps _ => exact hs.filter _
  | stores _ => exact hs.insert _ _ _
  | clears => exact .clear _

theorem Turn.expired (h : Turn s a t) {visit : Nat} {service : String}
    (hready : t.visits[visit]? = some ⟨service, .expired e⟩) :
    s.visits[visit]? = some ⟨service, .expired e⟩ ∨
      a = .look visit ∧ s.visits[visit]? = some ⟨service, .begun⟩ ∧ s.cache.find? service = some e ∧
        e.isExpired s.cache.ttl s.clock = true := by
  cases h with
  | quiet _ _ _ hvisits => exact .inl (hvisits visit service e hready)
  | @finds looking name f hbegun hfound hexpired =>
    rcases moveTo_cases hready with ⟨rfl, hstage, old, hold⟩ | hsame
    · cases hstage
      obtain ⟨rfl, -⟩ := Visit.mk.inj (Option.some.inj (hbegun.symm.trans hold))
      exact .inr ⟨rfl, hbegun, hfound, hexpired⟩
    · exact .inl hsame
  | @evicts evicting _ f _ =>
    exact .inl (keepsExpired_moveTo .missed (by simp) { s with cache := s.cache.removeIfSame f } evicting visit service e hready)
  | @stores _ putting name target strategy _ =>
    let new := s.cache.insert s.clock name target strategy
    exact .inl (keepsExpired_moveTo (.done (.ok new.1)) (by simp) { s with cache := new.2 } putting visit service e hready)
  | clears | begins | sweeps _ => exact .inl hready

theorem Turn.unfinished (h : Turn s a t) {sweep time : Nat} (hready : t.sweeps[sweep]? = some ⟨time, false⟩) :
    s.sweeps[sweep]? = some ⟨time, false⟩ ∨ a = .beginSweep ∧ sweep = s.sweeps.length ∧ time = s.clock := by
  cases h with
  | quiet _ hsweeps _ _ => exact .inl (hsweeps ▸ hready)
  | finds _ _ _ | evicts _ | stores _ | clears => exact .inl hready
  | begins =>
    rw [List.getElem?_append] at hready
    split at hready
    · exact .inl hready
    · rename_i hlength
      obtain ⟨hindex, hnew⟩ := List.getElem?_eq_some_iff.mp hready
      simp only [List.length_singleton] at hindex
      simp only [List.getElem_singleton, Sweep.mk.injEq, and_true] at hnew
      exact .inr ⟨rfl, by omega, hnew.symm⟩
  | sweeps _ =>
    rw [List.getElem?_set] at hready
    split at hready
    · split at hready <;> cases hready
    · exact .inl hready

theorem Turn.entries (h : Turn s a t) :
    (∀ f ∈ t.cache.entries, f ∈ s.cache.entries) ∧ t.cache.stored = s.cache.stored ∨
      ∃ e, e.serial = s.cache.stored ∧ (∀ f ∈ t.cache.entries, f ∈ s.cache.entries ∨ f = e) ∧
        t.cache.stored = s.cache.stored + 1 := by
  cases h with
  | quiet hcache _ _ _ => exact .inl ⟨fun f hf => hcache ▸ hf, by rw [hcache]⟩
  | finds _ _ _ | begins => exact .inl ⟨fun f hf => hf, rfl⟩
  | evicts _ | sweeps _ => exact .inl ⟨fun f hf => (List.mem_filter.mp hf).1, rfl⟩
  | clears => exact .inl ⟨fun f hf => absurd hf List.not_mem_nil, rfl⟩
  | @stores _ _ service target strategy _ =>
    refine .inr ⟨(s.cache.insert s.clock service target strategy).1, rfl, fun f hf => ?_, rfl⟩
    exact (List.mem_append.mp hf).imp (fun hold => (List.mem_filter.mp hold).1) List.mem_singleton.mp

def Known (s : Traffic) (e : CacheEntry) : Prop :=
  e ∈ s.cache.entries ∨ ∃ (visit : Nat) (service : String), s.visits[visit]? = some ⟨service, .expired e⟩

theorem Turn.known (h : Turn s a t) (hf : t.Known f) : s.Known f ∨ f ∈ t.cache.entries := by
  rcases hf with hmem | ⟨visit, service, hready⟩
  · exact .inr hmem
  · rcases h.expired hready with hbefore | ⟨-, -, hfound, -⟩
    · exact .inl (.inr ⟨visit, service, hbefore⟩)
    · exact .inl (.inl (find?_spec hfound).1)

structure Numbered (s : Traffic) : Prop where
  below : ∀ e, s.Known e → e.serial < s.cache.stored
  same : ∀ e f, s.Known e → s.Known f → e.serial = f.serial → e = f

theorem Numbered.turn (h : s.Numbered) (ht : Turn s a t) : t.Numbered := by
  rcases ht.entries with ⟨hold, hstored⟩ | ⟨new, hserial, hold, hstored⟩
  · have hknown {e : CacheEntry} (he : t.Known e) : s.Known e := (ht.known he).elim id fun hmem => .inl (hold e hmem)
    refine ⟨fun e he => ?_, fun e f he hf => h.same e f (hknown he) (hknown hf)⟩
    rw [hstored]
    exact h.below e (hknown he)
  · have hknown {e : CacheEntry} (he : t.Known e) : s.Known e ∨ e = new :=
      (ht.known he).elim .inl fun hmem => (hold e hmem).imp .inl id
    have hbelow {e : CacheEntry} (he : s.Known e) : e.serial ≠ new.serial := by
      rw [hserial]
      exact Nat.ne_of_lt (h.below e he)
    refine ⟨fun e he => ?_, fun e f he hf hsame => ?_⟩
    · rw [hstored]
      rcases hknown he with hbefore | rfl
      · exact Nat.lt_succ_of_lt (h.below e hbefore)
      · exact hserial ▸ Nat.lt_succ_self _
    · rcases hknown he with he | rfl
      · rcases hknown hf with hf | rfl
        · exact h.same e f he hf hsame
        · exact absurd hsame (hbelow he)
      · rcases hknown hf with hf | rfl
        · exact absurd hsame.symm (hbelow hf)
        · rfl

theorem Condemned.append (h : Condemned ttl s past e a) (later : List Step) : Condemned ttl s (past ++ later) e a := by
  cases h with
  | found hsplit hready hcurrent hold => exact .found (by rw [hsplit, List.append_assoc]; rfl) hready hcurrent hold
  | swept hsplit hold => exact .swept (by rw [hsplit, List.append_assoc]; rfl) hold

theorem Condemned.old (h : Condemned ttl s past e a) : e.created + ttl ≤ (run past s).clock := by
  have hlater {before after : List Step} {b : Step} (hsplit : past = before ++ b :: after)
      (hold : e.created + ttl ≤ (run before s).clock) : e.created + ttl ≤ (run past s).clock := by
    rw [hsplit, run_append]
    exact Nat.le_trans hold (clock_run _ _)
  cases h with
  | found hsplit _ _ hold => exact hlater hsplit hold
  | swept hsplit hold => exact hlater hsplit hold

/-- What is true after any past: entries are told apart, and nothing waits for its removal that is not condemned. -/
structure Watched (ttl : Nat) (services : List Service) (past : List Step) (s : Traffic) : Prop where
  reached : run past (start ttl services) = s
  limit : s.cache.ttl = ttl
  sound : s.cache.Sound s.clock
  numbered : s.Numbered
  found : ∀ (visit : Nat) (service : String) (e : CacheEntry), s.visits[visit]? = some ⟨service, .expired e⟩ →
    Condemned ttl (start ttl services) past e (.evict visit)
  swept : ∀ (sweep time : Nat), s.sweeps[sweep]? = some ⟨time, false⟩ → ∀ e : CacheEntry, e.created + ttl ≤ time →
    Condemned ttl (start ttl services) past e (.endSweep sweep)

namespace Watched

theorem start (ttl : Nat) (services : List Service) : Watched ttl services [] (start ttl services) where
  reached := rfl
  limit := rfl
  sound := sound_empty ttl 0
  numbered := by
    have hnone (e : CacheEntry) : ¬ (Traffic.start ttl services).Known e := by
      rintro (hmem | ⟨_, _, hready⟩)
      · cases hmem
      · cases hready
    exact ⟨fun e he => absurd he (hnone e), fun e f he => absurd he (hnone e)⟩
  found := by simp [Traffic.start]
  swept := by simp [Traffic.start]

theorem step (h : Watched ttl services past s) (a : Step) : Watched ttl services (past ++ [a]) (s.step a) := by
  have ht := turn s a
  refine ⟨?_, ht.limit.trans h.limit, ht.sound h.sound, h.numbered.turn ht, fun visit service e hready => ?_,
    fun sweep time hready e hold => ?_⟩
  · rw [run_append, h.reached]
    rfl
  · rcases ht.expired hready with hbefore | ⟨rfl, hbegun, hcurrent, hexpired⟩
    · exact (h.found visit service e hbefore).append [a]
    · obtain ⟨hmem, rfl⟩ := find?_spec hcurrent
      have hcreated := h.sound.created e hmem
      simp only [CacheEntry.isExpired, decide_eq_true_eq, h.limit] at hexpired
      refine .found rfl (h.reached ▸ hbegun) (h.reached ▸ hcurrent) ?_
      rw [h.reached]
      omega
  · rcases ht.unfinished hready with hbefore | ⟨rfl, rfl, rfl⟩
    · exact (h.swept sweep time hbefore e hold).append [a]
    · rw [← h.reached]
      refine .swept rfl ?_
      rw [h.reached]
      exact hold

theorem run (past : List Step) (ttl : Nat) (services : List Service) :
    Watched ttl services past (Traffic.run past (Traffic.start ttl services)) := by
  induction past using List.reverseRecOn with
  | nil => exact start ttl services
  | append_singleton past a ih =>
    rw [run_append]
    exact ih.step a

theorem removed (httl : 0 < ttl) (h : Watched ttl services past s) (he : e ∈ s.cache.entries)
    (hgone : e ∉ (s.step a).cache.entries) :
    s.displaces e a = true ∨ Condemned ttl (Traffic.start ttl services) past e a := by
  have ht := turn s a
  generalize s.step a = t at ht hgone
  cases ht with
  | quiet hcache _ _ _ => exact absurd (hcache ▸ he) hgone
  | finds _ _ _ => exact absurd he hgone
  | begins => exact absurd he hgone
  | clears => exact .inl rfl
  | @evicts visit service f hready =>
    refine .inr ?_
    have hsame : e.service = f.service ∧ e.serial = f.serial := by
      by_contra hdiffer
      exact hgone (List.mem_filter.mpr ⟨he, by simpa only [Bool.not_eq_true', Bool.and_eq_false_iff, beq_eq_false_iff_ne,
        Decidable.not_and_iff_or_not] using hdiffer⟩)
    -- What is removed has the number of the entry that was found expired, so it is that entry.
    obtain rfl := h.numbered.same e f (.inl he) (.inr ⟨visit, service, hready⟩) hsame.2
    exact h.found visit service e hready
  | @stores _ visit service target strategy hstored =>
    refine .inl (displaces_of_stored hstored ?_)
    show service = e.service
    by_contra hother
    exact hgone (List.mem_append_left _ (List.mem_filter.mpr ⟨he, by simpa using Ne.symm hother⟩))
  | @sweeps sweep time hready =>
    refine .inr (h.swept sweep time hready e ?_)
    have hexpired : e.isExpired s.cache.ttl time = true := by
      by_contra hlive
      exact hgone (List.mem_filter.mpr ⟨he, by simpa using hlive⟩)
    -- A sweep with a TTL of zero would also remove what was stored after it began.
    simp only [CacheEntry.isExpired, h.limit, decide_eq_true_eq] at hexpired
    omega

theorem stays (httl : 0 < ttl) (h : Watched ttl services past s) (he : e ∈ s.cache.entries) {later : List Step}
    (hspared : spares e later s = true) (hyoung : (Traffic.run later s).clock - e.created < ttl) :
    e ∈ (Traffic.run later s).cache.entries := by
  -- Each step spares the entry, and the clock never gets to its age.
  induction later generalizing past s with
  | nil => exact he
  | cons a later ih =>
    simp only [spares, Bool.and_eq_true, Bool.not_eq_true'] at hspared
    refine ih (h.step a) ?_ hspared.2 hyoung
    by_contra hgone
    rcases h.removed httl he hgone with hdisplaced | hcondemned
    · exact absurd hdisplaced (hspared.1 ▸ Bool.false_ne_true)
    · have hold := hcondemned.old
      have hclock := clock_run (a :: later) s
      rw [h.reached] at hold
      simp only [Traffic.run] at hclock hyoung
      omega

end Watched

/-- With a TTL above zero, a step takes out of the cache what it overwrites or clears, and else only an entry that had
reached the TTL when a request or a sweep decided on its removal. An entry that was put, is younger than the TTL and has
been neither overwritten nor cleared is in the cache, and is what every request for its service finds. -/
theorem only_expired_evicted (httl : 0 < ttl) (services : List Service) (past : List Step) (a : Step) :
    let s := run past (start ttl services)
    (∀ e ∈ s.cache.entries, e ∉ (s.step a).cache.entries →
        s.displaces e a = true ∨ Condemned ttl (start ttl services) past e a) ∧
      ∀ (e : CacheEntry) (later : List Step), s.stored? a = some e → spares e later (s.step a) = true →
        let t := run later (s.step a)
        t.clock - e.created < ttl →
          e ∈ t.cache.entries ∧ t.cache.find? e.service = some e ∧
            ∀ visit, t.visits[visit]? = some ⟨e.service, .begun⟩ →
              (t.look visit).visits[visit]? = some ⟨e.service, .done (.ok e)⟩ := by
  intro s
  have hs := Watched.run past ttl services
  refine ⟨fun e he hgone => hs.removed httl he hgone, fun e later hstored hspared => ?_⟩
  intro t hyoung
  have hstep := hs.step a
  have hstays := hstep.stays httl (mem_of_stored hstored) hspared hyoung
  have ht : Watched ttl services (past ++ [a] ++ later) t := by
    have hreached := Watched.run (past ++ [a] ++ later) ttl services
    rwa [run_append, hstep.reached] at hreached
  have hfind := ht.sound.find?_of_mem hstays
  refine ⟨hstays, hfind, fun visit hready => ?_⟩
  have hlive : e.isExpired t.cache.ttl t.clock = false := by
    rw [ht.limit, CacheEntry.isExpired, decide_eq_false_iff_not]
    omega
  simp only [look, hready, hfind, hlive, Bool.false_eq_true, if_false, getElem?_moveTo, Option.map_some, if_true]

/-- Three requests and a sweep are about to remove an expired entry. The first of them removes it and builds a new one,
which the others leave alone. -/
theorem only_expired_evicted_quay :
    let past : List Step := [.rebuild "quay", .ask 0, .put 0, .advance 1000, .visit "quay", .visit "quay", .visit "quay",
      .look 1, .look 2, .look 3, .beginSweep, .evict 1, .ask 1]
    let s := run past (start 1000 [⟨"quay", { targetUrl := "http://[::1]/" }⟩])
    let t := run [.evict 2, .endSweep 0, .evict 3, .visit "quay", .advance 999] (s.step (.put 1))
    0 < 1000 ∧ ∃ e, s.stored? (.put 1) = some e ∧ t.cache.entries = [e] ∧ t.clock - e.created = 999 ∧
      (t.look 4).visits[4]? = some ⟨"quay", .done (.ok e)⟩ := by
  intro past s t
  obtain ⟨e, hstored, hservice, hcreated⟩ :
      ∃ e, s.stored? (.put 1) = some e ∧ e.service = "quay" ∧ e.created = 1000 := ⟨_, rfl, rfl, rfl⟩
  obtain ⟨-, hstays⟩ := only_expired_evicted (by decide : 0 < 1000) [⟨"quay", { targetUrl := "http://[::1]/" }⟩] past (.put 1)
  obtain ⟨hmem, -, hfinds⟩ := hstays e [.evict 2, .endSweep 0, .evict 3, .visit "quay", .advance 999] hstored rfl
    (by rw [hcreated]; decide +kernel)
  refine ⟨by decide, e, hstored, ?_, ?_, ?_⟩
  · obtain ⟨f, hentries⟩ := List.length_eq_one_iff.mp (by decide +kernel : t.cache.entries.length = 1)
    have hmem : e ∈ t.cache.entries := hmem
    rw [hentries] at hmem
    rw [hentries, List.mem_singleton.mp hmem]
  · rw [hcreated]
    decide +kernel
  · rw [← hservice]
    exact hfinds 4 (by rw [hservice]; rfl)

end Traffic
end CredentialGateway.Cache
