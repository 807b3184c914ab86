import CredentialGateway.Proofs.Gateway.Warrants
import CredentialGateway.Proofs.Server.Journal

/-! How often the metadata are consulted, and how old an entry can be when it is chosen. -/

namespace CredentialGateway

open Http

namespace Gateway

variable {g : Gateway} {r : Request} {s t : State} {e f : CacheEntry} {id : String} {acts : List Act} {since : Nat}

/-- The lookup for a service leads to an entry, which is stored. -/
def Stores (id : String) (s : State) : Prop := ∃ e, (s.rebuildEntry id).1 = .ok e

theorem mem_of_rebuildEntry (h : s.rebuildEntry id = (.ok e, t)) :
    e ∈ t.cache.entries ∧ e.service = id ∧ e.created = s.now ∧ t.now = s.now ∧ t.cache.ttl = s.cache.ttl := by
  obtain ⟨err, hbuild, -⟩ | ⟨target, strategy, hbuild⟩ := rebuildEntry_cases id s
  · rw [hbuild] at h
    cases h
  · rw [hbuild] at h
    cases h
    exact ⟨List.mem_append_right _ List.mem_cons_self, rfl, rfl, rfl, rfl⟩

theorem ttl_cachedEntry (id : String) (s : State) : (s.cachedEntry id).2.cache.ttl = s.cache.ttl := by
  obtain ⟨e, -, -, hseek⟩ | ⟨-, hseek⟩ | ⟨e, -, -, hseek⟩ := cachedEntry_cases id s
  all_goals
    rw [hseek]
    rfl

theorem live_of_entryFor (httl : 0 < s.cache.ttl) (h : s.entryFor id = (.ok e, t)) :
    e ∈ t.cache.live t.now ∧ e.service = id ∧ t.now = s.now := by
  have hnow : t.now = s.now := by
    have huntouched := untouched_entryFor id s
    rw [h] at huntouched
    exact congrArg World.clock huntouched.world
  obtain ⟨f, hlive, hservice, hfound⟩ | ⟨-, -, hbuild⟩ := entryFor_cases id s
  · rw [hfound] at h
    cases h
    exact ⟨hlive, hservice, hnow⟩
  · rw [hbuild] at h
    obtain ⟨hmem, hservice, hcreated, hsame, hkept⟩ := mem_of_rebuildEntry h
    have hseek := ttl_cachedEntry id s
    refine ⟨Cache.mem_live.mpr ⟨hmem, ?_⟩, hservice, hnow⟩
    simp only [CacheEntry.isExpired, decide_eq_false_iff_not, hkept, hseek, hsame, hcreated]
    omega

theorem stays_after (hsound : s.cache.Sound s.now) (hf : f ∈ s.cache.entries) (hsince : since ≤ f.created)
    (hacts : ∀ services, .reload services ∉ acts) (hyoung : (after g acts s).now < since + s.cache.ttl) :
    ∃ f' ∈ (after g acts s).cache.entries, f'.service = f.service ∧ since ≤ f'.created := by
  induction acts generalizing s f with
  | nil => exact ⟨f, hf, rfl, hsince⟩
  | cons a acts ih =>
    have hnow : s.now ≤ (after g (a :: acts) s).now := now_after g (a :: acts) s
    have hcreated := hsound.created f hf
    have hlive : f.isExpired s.cache.ttl s.now = false := by
      simp only [CacheEntry.isExpired, decide_eq_false_iff_not]
      omega
    have ha : ∀ services, a ≠ .reload services := fun services heq => hacts services (heq ▸ List.mem_cons_self)
    obtain ⟨f₁, hf₁, hservice, hyounger⟩ := stays_perform (g := g) hsound hf hlive ha
    have hrest : ∀ services, .reload services ∉ acts := fun services hmem => hacts services (List.mem_cons_of_mem a hmem)
    have hyoung' : (after g acts (a.perform g s)).now < since + (a.perform g s).cache.ttl := by
      rw [ttl_perform]
      exact hyoung
    obtain ⟨f₂, hf₂, hservice', hsince'⟩ := ih (sound_perform hsound g a) hf₁ (hsince.trans hyounger) hrest hyoung'
    exact ⟨f₂, hf₂, hservice'.trans hservice, hsince'⟩

theorem not_missed (hsound : s.cache.Sound s.now) (hf : f ∈ s.cache.entries)
    (hyoung : s.now < f.created + s.cache.ttl) : (s.cachedEntry f.service).1 ≠ none := by
  have hfind := hsound.find?_of_mem hf
  have hcreated := hsound.created f hf
  have hlive : f.isExpired s.cache.ttl s.now = false := by
    simp only [CacheEntry.isExpired, decide_eq_false_iff_not]
    omega
  obtain ⟨e, -, -, hseek⟩ | ⟨hnone, -⟩ | ⟨e, hsome, hexpired, -⟩ := cachedEntry_cases f.service s
  · rw [hseek]
    exact Option.some_ne_none e
  · rw [hfind] at hnone
    cases hnone
  · rw [hfind] at hsome
    cases hsome
    rw [hlive] at hexpired
    cases hexpired

theorem missed_after_ttl (hsound : s.cache.Sound s.now) (hstores : Stores id s)
    (hacts : ∀ services, .reload services ∉ acts)
    (hmiss : ((after g acts (s.rebuildEntry id).2).cachedEntry id).1 = none) :
    s.now + s.cache.ttl ≤ (after g acts (s.rebuildEntry id).2).now := by
  obtain ⟨e, he⟩ := hstores
  have hpair : s.rebuildEntry id = (.ok e, (s.rebuildEntry id).2) := Prod.ext he rfl
  obtain ⟨hmem, rfl, hcreated, hnow, httl⟩ := mem_of_rebuildEntry hpair
  have hbuilt : (s.rebuildEntry e.service).2.cache.Sound (s.rebuildEntry e.service).2.now :=
    sound_perform hsound g (.build e.service)
  by_contra hle
  have hyoung : (after g acts (s.rebuildEntry e.service).2).now < s.now + (s.rebuildEntry e.service).2.cache.ttl := by
    rw [httl]
    exact Nat.not_le.mp hle
  obtain ⟨f, hf, hservice, hsince⟩ := stays_after hbuilt hmem hcreated.ge hacts hyoung
  have hfresh : (after g acts (s.rebuildEntry e.service).2).now <
      f.created + (after g acts (s.rebuildEntry e.service).2).cache.ttl := by
    rw [ttl_after]
    omega
  refine not_missed (sound_after hbuilt g acts) hf hfresh ?_
  rw [hservice]
  exact hmiss

theorem apart_of_missed (hsound : s.cache.Sound s.now) (hstores : Stores id s) {later rest : List (State × Act)}
    {y z : State} (hsplit : journal g acts (s.rebuildEntry id).2 = later ++ (z, .seek id) :: (y, .build id) :: rest)
    (hmiss : (z.cachedEntry id).1 = none) :
    s.now + s.cache.ttl ≤ y.now ∨ ∃ w services, (w, .reload services) ∈ later := by
  obtain ⟨cs, ds, -, rfl, rfl, hrest⟩ := split_of_journal hsplit
  have hy : y.now = (after g cs (s.rebuildEntry id).2).now := by
    cases ds with
    | nil => cases hrest
    | cons d ds =>
      cases hrest
      exact congrArg World.clock (untouched_cachedEntry id _).world
  by_cases hreload : ∃ services, .reload services ∈ cs
  · obtain ⟨services, hmem⟩ := hreload
    obtain ⟨w, hw⟩ := mem_journal g (s.rebuildEntry id).2 hmem
    exact .inr ⟨w, services, hw⟩
  · have hkept : ∀ services, .reload services ∉ cs := fun services hmem => hreload ⟨services, hmem⟩
    left
    rw [hy]
    exact missed_after_ttl hsound hstores hkept hmiss

theorem apart_of_licensed (hsound : s.cache.Sound s.now) (hlicensed : g.Licensed [] (journal g acts s))
    {before between rest : List (State × Act)} {x y : State}
    (hsplit : journal g acts s = before ++ (x, .build id) :: between ++ (y, .build id) :: rest) (hx : Stores id x) :
    x.now + s.cache.ttl ≤ y.now ∨ (∃ w p, (w, .first p) ∈ between ∧ p.service = id ∧ IsForbidden (g.tryOnce p w).1) ∨
      ∃ w services, (w, .reload services) ∈ between := by
  have hwarranted : g.Warranted id (between.reverse ++ (x, .build id) :: before.reverse) := by
    rw [hsplit] at hlicensed
    simpa using hlicensed.warranted
  rw [List.append_assoc, List.cons_append] at hsplit
  obtain ⟨as, bs, -, rfl, -, hrest⟩ := split_of_journal hsplit
  obtain ⟨z, earlier, hpast, hmiss⟩ | ⟨w, z, strategy, p, earlier, hpast, hservice, hforbidden⟩ :=
    warranted_cases hwarranted
  · -- The search that missed stands right before the second lookup, hence after the first one.
    obtain ⟨-, heq⟩ | ⟨later, hreverse, -⟩ := List.append_eq_cons_iff.mp hpast
    · cases heq
    · have hbetween : between = later.reverse ++ [(z, .seek id)] := by
        rw [← List.reverse_reverse between, hreverse, List.reverse_cons]
      rw [hbetween, List.append_assoc] at hrest
      obtain hapart | ⟨w, services, hmem⟩ := apart_of_missed (sound_after hsound g as) hx hrest.symm hmiss
      · rw [ttl_after] at hapart
        exact .inl hapart
      · rw [hbetween]
        exact .inr (.inr ⟨w, services, List.mem_append_left _ hmem⟩)
  · obtain ⟨-, heq⟩ | ⟨later, hreverse, htail⟩ := List.append_eq_cons_iff.mp hpast
    · cases heq
    · obtain ⟨-, heq⟩ | ⟨later', rfl, -⟩ := List.append_eq_cons_iff.mp htail.symm
      · cases heq
      · have hmem : (w, Act.first p) ∈ between.reverse := by
          rw [hreverse]
          exact List.mem_cons_of_mem _ List.mem_cons_self
        exact .inr (.inl ⟨w, p, List.mem_reverse.mp hmem, hservice, hforbidden⟩)

/-- An entry stems from a lookup after which services were not reloaded, and no other one has led to an entry. -/
structure BuiltIn (f : CacheEntry) (j : List (State × Act)) (x : State) (rest : List (State × Act)) : Prop where
  journal : ∃ before, j = before ++ (x, .build f.service) :: rest
  built : (x.rebuildEntry f.service).1 = .ok f
  created : x.now = f.created
  kept : ∀ w services, (w, .reload services) ∉ rest
  newest : ∀ w, (w, .build f.service) ∈ rest → ¬ Stores f.service w

theorem builtIn_of_mem (hsound : s.cache.Sound s.now) (hempty : s.cache.entries = [])
    (hf : f ∈ (after g acts s).cache.entries) : ∃ x rest, BuiltIn f (journal g acts s) x rest := by
  induction acts using List.reverseRecOn with
  | nil =>
    rw [show (after g [] s).cache.entries = [] from hempty] at hf
    cases hf
  | append_singleton acts a ih =>
    rw [after_append] at hf
    rw [journal_append]
    have hnext : (a.perform g (after g acts s)).cache.Sound (a.perform g (after g acts s)).now :=
      sound_perform (sound_after hsound g acts) g a
    -- Either this act has stored an entry, then it is the one in the cache, or the entry is older.
    by_cases hnew : a = .build f.service ∧ Stores f.service (after g acts s)
    · obtain ⟨rfl, e, he⟩ := hnew
      have hpair : (after g acts s).rebuildEntry f.service = (.ok e, ((after g acts s).rebuildEntry f.service).2) :=
        Prod.ext he rfl
      obtain ⟨hmem, hservice, hcreated, -, -⟩ := mem_of_rebuildEntry hpair
      obtain rfl : e = f := hnext.eq_of_service hmem hf hservice
      exact ⟨after g acts s, [], ⟨_, rfl⟩, he, hcreated.symm, fun _ _ h => (nomatch h), fun _ h => (nomatch h)⟩
    · obtain ⟨hold, hreload⟩ | ⟨hbuild, hstores, -⟩ := mem_of_perform hf
      · obtain ⟨x, rest, ⟨before, hj⟩, hbuilt, hcreated, hkept, hnewest⟩ := ih hold
        refine ⟨x, rest ++ [(after g acts s, a)], ⟨before, by rw [hj]; simp [journal]⟩, hbuilt, hcreated, ?_, ?_⟩
        · intro w services hmem
          obtain hrest | hlast := List.mem_append.mp hmem
          · exact hkept w services hrest
          · cases List.mem_singleton.mp hlast
            exact hreload services rfl
        · intro w hmem hstores
          obtain hrest | hlast := List.mem_append.mp hmem
          · exact hnewest w hrest hstores
          · cases List.mem_singleton.mp hlast
            exact hnew ⟨rfl, hstores⟩
      · exact absurd ⟨hbuild, f, hstores⟩ hnew

end Gateway

namespace Server
open Gateway

variable {g : Gateway} {s : State}

theorem licensed_acts (g : Gateway) (s : State) (e : Event) : g.Licensed [] (journal g (e.acts g s) s) := by
  have hreading (result : Except ProxyError Received) (id : String) : .build id ∉ readingActs result := by
    cases result <;> simp [readingActs]
  cases e with
  | request fresh r =>
    simp only [Event.acts]
    split
    · unfold handlingActs
      rw [journal_append]
      refine (licensed_forwardingActs g _ s).then (licensed_of_no_build (fun id hmem => ?_) _ _)
      obtain hnote | hread := List.mem_cons.mp hmem
      · cases hnote
      · exact hreading _ id hread
    · trivial
  | dispatch r =>
    simp only [Event.acts]
    rw [journal_append]
    exact (licensed_forwardingActs g r s).then (licensed_of_no_build (hreading _) _ _)
  | reload services => exact licensed_of_no_build (by simp [Event.acts]) _ _
  | advance millis => exact licensed_of_no_build (by simp [Event.acts]) _ _
  | sweep => exact licensed_of_no_build (by simp [Event.acts]) _ _

theorem licensed_actsOf (g : Gateway) (es : List Event) (s : State) : g.Licensed [] (journal g (actsOf g es s) s) := by
  induction es generalizing s with
  | nil => trivial
  | cons e es ih =>
    simp only [actsOf]
    rw [journal_append, after_acts]
    exact (licensed_acts g s e).then (ih _)

/-- In every run of a server with a time to live: between a lookup for a service that leads to an entry and any later one
the time to live passes, or a first attempt for the service is answered 403, or services are reloaded. And the entry that
is chosen for a request, when its body has come, is younger than the time to live, counted from the lookup that built it,
however often it was used since; since that lookup services were not reloaded, and no other lookup for the service has led
to an entry. -/
theorem lookups_spaced_by_ttl (network : Network) (c : Config) (metadata : Metadata) (es : List Event)
    (httl : 0 < c.forwarding.cacheTtl) :
    let g := Gateway.ofConfig network c
    let ttl := 1000 * c.forwarding.cacheTtl
    let start := State.start c metadata
    (∀ before x between y rest id,
        journal g (actsOf g es start) start = before ++ (x, .build id) :: between ++ (y, .build id) :: rest →
        Stores id x →
        x.now + ttl ≤ y.now ∨ (∃ w p, (w, .first p) ∈ between ∧ p.service = id ∧ IsForbidden (g.tryOnce p w).1) ∨
          ∃ w services, (w, .reload services) ∈ between) ∧
      ∀ r p t, let s := (reactAll State.entryFor g es start).2
        let arrived := g.awaitBody r s
        g.prepare r s = (.ok p, t) →
        p.entry.created ≤ arrived.now ∧ arrived.now < p.entry.created + ttl ∧ ∃ x rest,
          BuiltIn p.entry
              (journal g (actsOf g es start ++ .advance (g.arrival r) :: findingActs p.service arrived) start) x rest ∧
            Builds x.metadata x.lookups p.service p.entry := by
  intro g ttl start
  have hsound : start.cache.Sound start.now := cache_sound_start c metadata
  refine ⟨fun before x between y rest id hsplit hx =>
    apart_of_licensed hsound (licensed_actsOf g es start) hsplit hx, fun r p t => ?_⟩
  intro s arrived hprepare
  obtain ⟨-, u, hentry, -⟩ := prepare_spec hprepare
  have hs : after g (actsOf g es start) start = s := after_actsOf g es start
  have hkept : arrived.cache.ttl = ttl := by
    change s.cache.ttl = ttl
    rw [← hs, ttl_after]
    rfl
  have hu : after g (actsOf g es start ++ .advance (g.arrival r) :: findingActs p.service arrived) start = u := by
    rw [after_append, hs]
    change after g (findingActs p.service arrived) arrived = u
    rw [after_findingActs, hentry]
  have hpositive : 0 < arrived.cache.ttl := by
    rw [hkept]
    exact Nat.mul_pos (by decide) httl
  obtain ⟨hlive, hservice, hnow⟩ := live_of_entryFor hpositive hentry
  obtain ⟨hmem, hunexpired⟩ := Cache.mem_live.mp hlive
  rw [← hu] at hmem
  have hcreated := (sound_after hsound g _).created p.entry hmem
  have husable : u.cache.ttl = ttl := by
    rw [← hu, ttl_after]
    rfl
  -- The cache was empty at the start, so the entry was built on the way.
  obtain ⟨x, rest, hbuilt⟩ := builtIn_of_mem hsound rfl hmem
  have hbuilds : Builds x.metadata x.lookups p.service p.entry := by
    have hpair : x.rebuildEntry p.entry.service = (.ok p.entry, (x.rebuildEntry p.entry.service).2) :=
      Prod.ext hbuilt.built rfl
    rw [← hservice]
    exact (rebuildEntry_spec hpair).2 p.entry rfl
  rw [hu, hnow] at hcreated
  simp only [CacheEntry.isExpired, decide_eq_false_iff_not, husable, hnow] at hunexpired
  exact ⟨hcreated, by omega, x, rest, hbuilt, hbuilds⟩

namespace Mill

def config : Config :=
  { forwarding := { cacheTtl := 1 }
    services := [⟨"mill", { targetUrl := "http://[::2]/", credentials := none }⟩] }

def network : Network where
  connects _ := true
  reply _ _ := ⟨200, .empty, [], 0, false, none⟩

def order : Request := ⟨.get, .origin "/".toList, Headers.empty.add .host ⟨Bytes.ofText "mill", false⟩, .whole []⟩

def chosen? (s : State) : Option Nat :=
  match (Gateway.ofConfig network config).prepare order s with
  | (.error _, _) => none
  | (.ok p, _) => some p.entry.created

end Mill

section Mill
open Mill

/-- Up to a second after the first order the mill is found in the cache. Then its definition is looked up again. -/
theorem lookups_spaced_at_mill :
    let s := (runOf network config [.dispatch order, .advance 999]).2
    0 < config.forwarding.cacheTtl ∧ chosen? s = some 0 ∧ chosen? (s.advance 1) = some 1000 ∧
      ∃ p t, (Gateway.ofConfig network config).prepare order s = (.ok p, t) ∧ s.now < p.entry.created + 1000 := by
  intro s
  have hnow : chosen? s = some 0 := by decide +kernel
  have hthen : chosen? (s.advance 1) = some 1000 := by decide +kernel
  refine ⟨by decide, hnow, hthen, ?_⟩
  unfold chosen? at hnow
  split at hnow
  · cases hnow
  · rename_i p t hprepare
    obtain ⟨-, hspaced⟩ := lookups_spaced_by_ttl network config (.directory (.ofServices config.services))
      [.dispatch order, .advance 999] (by decide)
    obtain ⟨-, hyoung, -⟩ := hspaced order p t hprepare
    exact ⟨p, t, hprepare, Nat.lt_of_le_of_lt (Nat.le_add_right _ _) hyoung⟩

end Mill

end Server
end CredentialGateway
