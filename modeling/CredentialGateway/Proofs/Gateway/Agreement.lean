import CredentialGateway.Proofs.Gateway.Lockstep
import CredentialGateway.Proofs.Gateway.Veil

/-! Gateways whose directories and caches differ behind a veil: they find entries that differ behind it only, and so they
are in lockstep. -/

namespace CredentialGateway

open Http

structure Service.Agree (D : ServiceDefinition → ServiceDefinition → Prop) (s t : Service) : Prop where
  id : s.id = t.id
  definition : D s.definition t.definition

def Directory.Agree (D : ServiceDefinition → ServiceDefinition → Prop) (d e : Directory) : Prop :=
  List.Forall₂ (fun a b => a.1 = b.1 ∧ D a.2 b.2) d.entries e.entries

structure Cache.Agree (v : Veil) (c d : Cache) : Prop where
  ttl : c.ttl = d.ttl
  stored : c.stored = d.stored
  entries : List.Forall₂ v.Entries c.entries d.entries

theorem rel_find? {α β : Type} {R : α → β → Prop} {p : α → Bool} {q : β → Bool} (hpq : ∀ a b, R a b → p a = q b)
    {l : List α} {k : List β} (h : List.Forall₂ R l k) : Option.Rel R (l.find? p) (k.find? q) := by
  induction h with
  | nil => exact .none
  | @cons a b l k hab _ ih =>
    rw [List.find?_cons, List.find?_cons, ← hpq a b hab]
    cases p a
    · exact ih
    · exact .some hab

namespace Directory.Agree

variable {D : ServiceDefinition → ServiceDefinition → Prop} {d e : Directory}

theorem insert (h : d.Agree D e) (key : String) {a b : ServiceDefinition} (hab : D a b) :
    (d.insert key a).Agree D (e.insert key b) :=
  List.rel_append (List.rel_filter (fun _ _ hxy => Bool.eq_iff_iff.mp (congrArg (· != key) hxy.1)) h)
    (.cons ⟨rfl, hab⟩ .nil)

theorem ofServices {l k : List Service} (h : List.Forall₂ (Service.Agree D) l k) :
    (Directory.ofServices l).Agree D (.ofServices k) := by
  have hfold {d e : Directory} (hde : d.Agree D e) :
      (l.foldl (fun d s => d.insert (Unicode.lowerText s.id) s.definition) d).Agree D
        (k.foldl (fun d s => d.insert (Unicode.lowerText s.id) s.definition) e) := by
    induction h generalizing d e with
    | nil => exact hde
    | cons hst _ ih =>
      rw [List.foldl_cons, List.foldl_cons, hst.id]
      exact ih (hde.insert _ hst.definition)
  exact hfold .nil

theorem lookup (h : d.Agree D e) (key : String) : OutcomeRel D (d.lookup key) (e.lookup key) := by
  have hfound := rel_find? (fun _ _ hxy => congrArg (· == key) hxy.1) h
  unfold Directory.lookup Directory.get?
  generalize d.entries.find? (·.1 == key) = x, e.entries.find? (·.1 == key) = y at hfound
  cases hfound with
  | none => exact .error _
  | some hxy => exact .ok hxy.2

end Directory.Agree

variable {v : Veil}

namespace Cache.Agree

variable {c d : Cache}

theorem isExpired {a b : CacheEntry} (h : v.Entries a b) (ttl now : Nat) : a.isExpired ttl now = b.isExpired ttl now := by
  rw [CacheEntry.isExpired, CacheEntry.isExpired, h.created]

theorem filter (h : c.Agree v d) {p q : CacheEntry → Bool} (hpq : ∀ a b, v.Entries a b → p a = q b) :
    { c with entries := c.entries.filter p }.Agree v { d with entries := d.entries.filter q } :=
  ⟨h.ttl, h.stored, List.rel_filter (fun a b hab => Bool.eq_iff_iff.mp (hpq a b hab)) h.entries⟩

theorem find? (h : c.Agree v d) (service : String) : Option.Rel v.Entries (c.find? service) (d.find? service) :=
  rel_find? (fun _ _ hab => congrArg (· == service) hab.service) h.entries

theorem removeIfSame (h : c.Agree v d) {a b : CacheEntry} (hab : v.Entries a b) :
    (c.removeIfSame a).Agree v (d.removeIfSame b) :=
  h.filter fun x y hxy => by rw [hxy.service, hxy.serial, hab.service, hab.serial]

theorem get (h : c.Agree v d) (now : Nat) (service : String) :
    Option.Rel v.Entries (c.get now service).1 (d.get now service).1 ∧
      (c.get now service).2.Agree v (d.get now service).2 := by
  have hfound := h.find? service
  unfold Cache.get
  generalize c.find? service = x, d.find? service = y at hfound
  cases hfound with
  | none => exact ⟨.none, h⟩
  | some hab =>
    dsimp only
    rw [isExpired hab, h.ttl]
    split
    · exact ⟨.none, h.removeIfSame hab⟩
    · exact ⟨.some hab, h⟩

theorem insert (h : c.Agree v d) (now : Nat) (service : String) (target : Url) {x y : Strategy} (hxy : v.Strategies x y) :
    v.Entries (c.insert now service target x).1 (d.insert now service target y).1 ∧
      (c.insert now service target x).2.Agree v (d.insert now service target y).2 := by
  have hentry : v.Entries ⟨service, target, x, now, c.stored⟩ ⟨service, target, y, now, d.stored⟩ :=
    ⟨rfl, rfl, hxy, rfl, h.stored⟩
  exact ⟨hentry, h.ttl, congrArg (· + 1) h.stored,
    List.rel_append (h.filter fun a b hab => by rw [hab.service]).entries (.cons hentry .nil)⟩

theorem size (h : c.Agree v d) : c.size = d.size := h.entries.length_eq

theorem clear (h : c.Agree v d) : c.clear.Agree v d.clear := ⟨h.ttl, h.stored, .nil⟩

theorem evictExpired (h : c.Agree v d) (now : Nat) : (c.evictExpired now).Agree v (d.evictExpired now) :=
  h.filter fun a b hab => by rw [isExpired hab, h.ttl]

end Cache.Agree

namespace Gateway

structure State.Agree (v : Veil) (s t : State) : Prop where
  session : s.toSession.Agree v.sent t.toSession
  cache : s.cache.Agree v t.cache
  directory : ∃ d e, s.metadata = .directory d ∧ t.metadata = .directory e ∧ d.Agree v.definition e
  lookups : s.lookups = t.lookups

namespace State.Agree

variable {g : Gateway} {s t : State} {a b : CacheEntry}

theorem record (h : s.Agree v t) (m : Metric) : (s.record m).Agree v (t.record m) :=
  ⟨h.session.record m, h.cache, h.directory, h.lookups⟩

theorem now (h : s.Agree v t) : s.now = t.now := h.session.world.clock

theorem withSession (h : s.Agree v t) {x y : Session} (hxy : x.Agree v.sent y) :
    { s with toSession := x }.Agree v { t with toSession := y } :=
  ⟨hxy, h.cache, h.directory, h.lookups⟩

theorem withCache (h : s.Agree v t) {c d : Cache} (hcd : c.Agree v d) : (s.withCache c).Agree v (t.withCache d) := by
  unfold State.withCache
  rw [hcd.size]
  exact ⟨h.session.record _, hcd, h.directory, h.lookups⟩

theorem rebuildEntry (hdefined : ∀ d e, v.definition d e →
      d.targetUrl = e.targetUrl ∧ v.Strategies (.ofCredentials d.credentials) (.ofCredentials e.credentials))
    (h : s.Agree v t) (id : String) :
    OutcomeRel v.Entries (State.rebuildEntry id s).1 (State.rebuildEntry id t).1 ∧
      (State.rebuildEntry id s).2.Agree v (State.rebuildEntry id t).2 := by
  obtain ⟨d, e, hs, ht, hde⟩ := h.directory
  have hcounted : { s with lookups := s.lookups + 1 }.Agree v { t with lookups := t.lookups + 1 } :=
    ⟨h.session, h.cache, h.directory, congrArg (· + 1) h.lookups⟩
  have hfound := hde.lookup id
  simp only [State.rebuildEntry, Metadata.lookup_of_directory hs, Metadata.lookup_of_directory ht]
  generalize d.lookup id = x, e.lookup id = y at hfound
  cases hfound with
  | error err => exact ⟨.error _, hcounted⟩
  | @ok x y hxy =>
    obtain ⟨htarget, hstrategy⟩ := hdefined x y hxy
    have hnow := hcounted.now
    dsimp only [State.storeEntry, Cache.put] at hnow ⊢
    rw [htarget, hnow]
    rcases Cache.readTarget y.targetUrl with reason | target
    · exact ⟨.error _, hcounted⟩
    · obtain ⟨hentry, hcache⟩ := h.cache.insert { t with lookups := t.lookups + 1 }.now id target hstrategy
      exact ⟨.ok hentry, hcounted.withCache hcache⟩

theorem cachedEntry (h : s.Agree v t) (id : String) :
    Option.Rel v.Entries (s.cachedEntry id).1 (t.cachedEntry id).1 ∧
      (s.cachedEntry id).2.Agree v (t.cachedEntry id).2 := by
  obtain ⟨hfound, hcache⟩ := h.cache.get t.now id
  have hkept := h.cache.find? id
  have hnone {x y : Option CacheEntry} (hxy : Option.Rel v.Entries x y) : x.isNone = y.isNone ∧ x.isSome = y.isSome := by
    cases hxy <;> exact ⟨rfl, rfl⟩
  unfold State.cachedEntry
  rw [h.now]
  refine ⟨hfound, ?_⟩
  dsimp only
  rw [(hnone hfound).1, (hnone hfound).2, (hnone hkept).2]
  split
  · exact (h.withCache hcache).record _
  · exact h.record _

theorem entryFor (hv : v.Covers g.network) (h : s.Agree v t) (id : String) :
    OutcomeRel v.Entries (State.entryFor id s).1 (State.entryFor id t).1 ∧
      (State.entryFor id s).2.Agree v (State.entryFor id t).2 := by
  obtain ⟨hfound, hafter⟩ := h.cachedEntry id
  unfold State.entryFor
  rcases hs : s.cachedEntry id with ⟨x, s'⟩
  rcases ht : t.cachedEntry id with ⟨y, t'⟩
  rw [hs, ht] at hfound hafter
  cases hfound with
  | none => exact hafter.rebuildEntry hv.defined id
  | some hab => exact ⟨.ok hab, hafter⟩

theorem finish (h : s.Agree v t) (received : Received) :
    InStep (State.Agree v) (Gateway.finish received s) (Gateway.finish received t) := by
  obtain ⟨body, w, w', hw, hw', hafter⟩ := (h.session.world.readBody received).pairs
  unfold Gateway.finish
  rw [hw, hw']
  exact ⟨rfl, h.withSession (h.session.withWorld hafter)⟩

theorem reload (h : s.Agree v t) {services services' : List Service}
    (hservices : List.Forall₂ (Service.Agree v.definition) services services') :
    (s.reload services).Agree v (t.reload services') := by
  obtain ⟨d, e, hs, ht, -⟩ := h.directory
  have htaken : { s with metadata := .directory (.ofServices services) }.Agree v
      { t with metadata := .directory (.ofServices services') } :=
    ⟨h.session, h.cache, ⟨_, _, rfl, rfl, Directory.Agree.ofServices hservices⟩, h.lookups⟩
  unfold State.reload
  rw [hs, ht]
  exact htaken.withCache h.cache.clear

theorem advance (h : s.Agree v t) (millis : Nat) : (s.advance millis).Agree v (t.advance millis) :=
  h.withSession (h.session.withWorld (h.session.world.advance millis))

theorem evictExpired (h : s.Agree v t) : s.evictExpired.Agree v t.evictExpired := by
  unfold State.evictExpired
  rw [h.now]
  exact h.withCache (h.cache.evictExpired t.now)

theorem start (c : Config) {services services' : List Service}
    (hservices : List.Forall₂ (Service.Agree v.definition) services services') :
    (State.start { c with services } (.directory (.ofServices services))).Agree v
      (State.start { c with services := services' } (.directory (.ofServices services'))) :=
  ⟨⟨⟨rfl, .nil⟩, rfl, rfl, rfl, rfl⟩, ⟨rfl, rfl, .nil⟩, ⟨_, _, rfl, rfl, Directory.Agree.ofServices hservices⟩, rfl⟩

theorem lockstep (hv : v.Covers g.network) :
    Lockstep g State.entryFor State.entryFor (State.Agree v) v.Entries where
  now _ _ h := h.now
  advance _ _ millis h := h.advance millis
  record _ _ m h := h.record m
  found _ _ id h := h.entryFor hv id
  rebuilt _ _ id h := h.rebuildEntry hv.defined id
  reset _ _ _ _ h hab := h.withSession (h.session.reset hab.strategy)
  attempt s t a b o h hab := by
    obtain ⟨answer, x, y, hx, hy, hafter⟩ := (attempt_inStep hv h.session hab o).pairs
    unfold State.onSession
    rw [hx, hy]
    exact ⟨rfl, h.withSession hafter⟩
  finish _ _ received h := h.finish received

end State.Agree
end Gateway
end CredentialGateway
