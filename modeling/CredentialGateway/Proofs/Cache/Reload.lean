import CredentialGateway.Proofs.Cache.Traffic
import CredentialGateway.Proofs.Gateway.Mirror

/-! What a cache holds after an update of the directory: entries of the new definitions, and those that requests build
which had their definition before the update and are still at it when the cache is cleared. -/

namespace CredentialGateway

structure CacheEntry.BuiltFrom (e : CacheEntry) (definition : ServiceDefinition) : Prop where
  target : Cache.readTarget definition.targetUrl = .ok e.target
  strategy : e.strategy = .ofCredentials definition.credentials

namespace Cache

theorem put_spec {c c' : Cache} {now : Nat} {service : String} {definition : ServiceDefinition} {e : CacheEntry}
    (h : c.put now service definition.targetUrl (.ofCredentials definition.credentials) = .ok (e, c')) :
    (e.service = service ∧ e.BuiltFrom definition) ∧ ∀ f ∈ c'.entries, f ∈ c.entries ∨ f = e := by
  unfold put at h
  split at h
  · rename_i target htarget
    cases h
    refine ⟨⟨rfl, htarget, rfl⟩, fun f hf => ?_⟩
    rcases List.mem_append.mp hf with hold | hnew
    · exact .inl (List.mem_filter.mp hold).1
    · exact .inr (List.mem_singleton.mp hnew)
  · cases h

namespace Traffic

def Builds (s : Traffic) (i : Nat) (service : String) (definition : ServiceDefinition) : Prop :=
  s.visits[i]? = some ⟨service, .building definition⟩

/-- Entries are built from what the directory defines or from a definition that a request had before. All of them are
good, as are those that the requests from the `n`-th on have got. -/
structure Follows (d : Directory) (old : Nat → String → ServiceDefinition → Prop) (good : CacheEntry → Prop) (n : Nat)
    (s : Traffic) : Prop where
  directory : s.directory = d
  builds : ∀ i service definition, s.Builds i service definition →
    d.lookup service = .ok definition ∨ old i service definition
  entries : ∀ e ∈ s.cache.entries, good e
  results : ∀ i service e, n ≤ i → s.visits[i]? = some ⟨service, .done (.ok e)⟩ → good e

section
variable {d : Directory} {old : Nat → String → ServiceDefinition → Prop} {good : CacheEntry → Prop} {n k : Nat}
  {s : Traffic}

namespace Follows

theorem withCache (h : Follows d old good n s) {c : Cache} (hc : ∀ e ∈ c.entries, good e) :
    Follows d old good n { s with cache := c } := ⟨h.directory, h.builds, hc, h.results⟩

theorem moveTo (h : Follows d old good n s) {service : String} {stage before : Stage}
    (hready : s.visits[k]? = some ⟨service, before⟩)
    (hbuilds : ∀ definition, stage = .building definition → d.lookup service = .ok definition)
    (hresult : ∀ e, stage = .done (.ok e) → good e) : Follows d old good n (s.moveTo k stage) := by
  refine ⟨h.directory, fun i name definition hi => ?_, h.entries, fun i name e hn hi => ?_⟩
  · rcases moveTo_cases hi with ⟨rfl, hstage, other, hother⟩ | hsame
    · obtain ⟨rfl, -⟩ := Visit.mk.inj (Option.some.inj (hready.symm.trans hother))
      exact .inl (hbuilds definition hstage.symm)
    · exact h.builds i name definition hsame
  · rcases moveTo_cases hi with ⟨rfl, hstage, -⟩ | hsame
    · exact hresult e hstage.symm
    · exact h.results i name e hn hsame

theorem pass (h : Follows d old good n s) {service : String} {stage before : Stage}
    (hready : s.visits[k]? = some ⟨service, before⟩)
    (hstage : stage = .missed ∨ (∃ e, stage = .expired e) ∨ ∃ e, stage = .done (.error e)) :
    Follows d old good n (s.moveTo k stage) := by
  refine h.moveTo hready (fun definition heq => ?_) fun e heq => ?_
  · rcases hstage with rfl | ⟨_, rfl⟩ | ⟨_, rfl⟩ <;> cases heq
  · rcases hstage with rfl | ⟨_, rfl⟩ | ⟨_, rfl⟩ <;> cases heq

theorem finds (h : Follows d old good n s) {service : String} {before : Stage} {e : CacheEntry}
    (hready : s.visits[k]? = some ⟨service, before⟩) (he : good e) :
    Follows d old good n (s.moveTo k (.done (.ok e))) := by
  refine h.moveTo hready (fun definition heq => ?_) fun found heq => ?_
  · cases heq
  · cases heq
    exact he

theorem come (h : Follows d old good n s) {service : String} {stage : Stage} (hstage : stage = .begun ∨ stage = .missed) :
    Follows d old good n { s with visits := s.visits ++ [⟨service, stage⟩] } := by
  have hold {i : Nat} {v : Visit} (hi : (s.visits ++ [⟨service, stage⟩])[i]? = some v) (hne : v.stage ≠ stage) :
      s.visits[i]? = some v := by
    rw [List.getElem?_append] at hi
    split at hi
    · exact hi
    · obtain rfl := List.mem_singleton.mp (List.mem_of_getElem? hi)
      exact absurd rfl hne
  refine ⟨h.directory, fun i name definition hi => h.builds i name definition (hold hi ?_), h.entries,
    fun i name e hn hi => h.results i name e hn (hold hi ?_)⟩
  · rcases hstage with rfl | rfl <;> exact fun heq => nomatch heq
  · rcases hstage with rfl | rfl <;> exact fun heq => nomatch heq

theorem step (h : Follows d old good n s)
    (hgood : ∀ i e definition, d.lookup e.service = .ok definition ∨ old i e.service definition → e.BuiltFrom definition →
      good e) {a : Step} (ha : ∀ services, a ≠ .replace services) : Follows d old good n (s.step a) := by
  -- Only a put brings an entry into the cache, and it builds from what the directory or an old visit defines.
  cases a with
  | visit service => exact h.come (.inl rfl)
  | rebuild service => exact h.come (.inr rfl)
  | look visit =>
    simp only [Traffic.step, look]
    split
    · rename_i service hready
      split
      · exact h.pass hready (.inl rfl)
      · rename_i e hfind
        split
        · exact h.pass hready (.inr (.inl ⟨e, rfl⟩))
        · exact h.finds hready (h.entries e (find?_spec hfind).1)
    · exact h
  | evict visit =>
    simp only [Traffic.step, evict]
    split
    · rename_i service e hready
      have hremoved : Follows d old good n { s with cache := s.cache.removeIfSame e } :=
        h.withCache fun f hf => h.entries f (List.mem_filter.mp hf).1
      exact hremoved.pass hready (.inl rfl)
    · exact h
  | ask visit =>
    simp only [Traffic.step, ask]
    split
    · rename_i service hready
      rw [h.directory]
      split
      · exact h.pass hready (.inr (.inr ⟨_, rfl⟩))
      · rename_i definition hlookup
        refine h.moveTo hready (fun found hstage => ?_) (fun e hstage => ?_)
        · cases hstage
          exact hlookup
        · cases hstage
    · exact h
  | put visit =>
    simp only [Traffic.step, put]
    split
    · rename_i service definition hready
      split
      · exact h.pass hready (.inr (.inr ⟨_, rfl⟩))
      · rename_i e c hput
        obtain ⟨⟨rfl, hbuilt⟩, hentries⟩ := put_spec hput
        have hnew : good e := hgood visit e definition (h.builds visit _ definition hready) hbuilt
        have hstored : Follows d old good n { s with cache := c } := h.withCache fun f hf => by
          rcases hentries f hf with hkept | rfl
          · exact h.entries f hkept
          · exact hnew
        exact hstored.finds hready hnew
    · exact h
  | replace services => exact absurd rfl (ha services)
  | clear => exact h.withCache fun e he => absurd he List.not_mem_nil
  | beginSweep => exact ⟨h.directory, h.builds, h.entries, h.results⟩
  | endSweep sweep =>
    simp only [Traffic.step, endSweep]
    split
    · exact ⟨h.directory, h.builds, fun e he => h.entries e (List.mem_filter.mp he).1, h.results⟩
    · exact h
  | advance millis => exact ⟨h.directory, h.builds, h.entries, h.results⟩

theorem run (h : Follows d old good n s)
    (hgood : ∀ i e definition, d.lookup e.service = .ok definition ∨ old i e.service definition → e.BuiltFrom definition →
      good e) {as : List Step} (has : ∀ services, .replace services ∉ as) : Follows d old good n (Traffic.run as s) := by
  induction as generalizing s with
  | nil => exact h
  | cons a as ih =>
    refine ih (h.step hgood fun services heq => ?_) fun services hmem => has services (List.mem_cons_of_mem _ hmem)
    exact has services (heq ▸ List.mem_cons_self)

end Follows
end

/-- An entry is built from a definition that some request had in both states. -/
def Straggles (s t : Traffic) (e : CacheEntry) : Prop :=
  ∃ i definition, s.Builds i e.service definition ∧ t.Builds i e.service definition ∧ e.BuiltFrom definition

/-- Once the directory is replaced and the cache cleared, everything in the cache is what the new directory asks for, but
for what those build who had their definition before the first of the two steps and put their entry after the second. So
it is with what the requests find that come after the update. -/
theorem reload_leaves_stragglers (ttl : Nat) (first services : List Service) (past within later : List Step)
    (hwithin : ∀ other, .replace other ∉ within) (hlater : ∀ other, .replace other ∉ later) :
    let replaced := run past (start ttl first)
    let cleared := (run within (replaced.step (.replace services))).step .clear
    let s := run later cleared
    (∀ e ∈ s.cache.entries, (Directory.ofServices services).Backs e ∨ Straggles replaced cleared e) ∧
      ∀ i service e, cleared.visits.length ≤ i → s.visits[i]? = some ⟨service, .done (.ok e)⟩ →
        (Directory.ofServices services).Backs e ∨ Straggles replaced cleared e := by
  intro replaced cleared s
  let d := Directory.ofServices services
  -- Until the cache is cleared, the invariant says only who still has a definition of the old directory.
  have hreplaced : Follows d replaced.Builds (fun _ => True) 0 (replaced.step (.replace services)) :=
    ⟨rfl, fun i service definition h => .inr h, fun _ _ => trivial, fun _ _ _ _ _ => trivial⟩
  obtain ⟨hdirectory, hbuilds, -, -⟩ := hreplaced.run (fun _ _ _ _ _ => trivial) hwithin
  -- From then on nobody else can put an entry that the new directory does not back.
  have hcleared : Follows d (fun i service definition => replaced.Builds i service definition ∧
      cleared.Builds i service definition) (fun e => d.Backs e ∨ Straggles replaced cleared e) cleared.visits.length
      cleared := by
    refine ⟨hdirectory, fun i service definition h => ?_, fun e he => (nomatch he), fun i service e hn hi => ?_⟩
    · exact (hbuilds i service definition h).imp id fun hold => ⟨hold, h⟩
    · exact absurd (List.getElem?_eq_some_iff.mp hi).1 (Nat.not_lt.mpr hn)
  have hafter := hcleared.run (fun i e definition hsource hbuilt => ?_) hlater
  · exact ⟨hafter.entries, hafter.results⟩
  · rcases hsource with hlookup | ⟨hbefore, hstill⟩
    · exact .inl ⟨definition, hlookup, hbuilt.target, hbuilt.strategy⟩
    · exact .inr ⟨i, definition, hbefore, hstill, hbuilt⟩

def quayAt (address : String) : Service := ⟨"quay", { targetUrl := "http://" ++ address ++ "/" }⟩

/-- A request that comes before the update has put its entry when the cache is cleared: nothing is left of it, and all
that is in the cache later is what the new directory asks for. -/
theorem reload_leaves_new_quay :
    let replaced := run [.visit "quay", .look 0, .ask 0] (start 60000 [quayAt "[::1]"])
    let cleared := (run [.put 0, .visit "quay", .look 1] (replaced.step (.replace [quayAt "[::2]"]))).step .clear
    let s := run [.visit "quay", .look 2, .ask 2, .put 2] cleared
    s.cache.size = 1 ∧ ∀ e ∈ s.cache.entries, (Directory.ofServices [quayAt "[::2]"]).Backs e := by
  intro replaced cleared s
  refine ⟨by decide +kernel, fun e he => ?_⟩
  obtain ⟨hentries, -⟩ := reload_leaves_stragglers 60000 [quayAt "[::1]"] [quayAt "[::2]"] [.visit "quay", .look 0, .ask 0]
    [.put 0, .visit "quay", .look 1] [.visit "quay", .look 2, .ask 2, .put 2] (fun _ h => by simp at h)
    (fun _ h => by simp at h)
  rcases hentries e he with hbacks | ⟨i, definition, -, hstill, -⟩
  · exact hbacks
  · obtain ⟨a, b, hdone⟩ : ∃ a b, cleared.visits = [⟨"quay", .done a⟩, ⟨"quay", .done b⟩] := ⟨_, _, rfl⟩
    have hbuilding : (⟨e.service, .building definition⟩ : Visit) ∈ cleared.visits := List.mem_of_getElem? hstill
    rw [hdone] at hbuilding
    simp at hbuilding

/-- A request that has its definition from before the update puts its entry after it. Nothing is built any more, and the
next request is led to the target that the update has removed. -/
theorem reload_leaves_old_quay :
    let s := run [.visit "quay", .look 0, .ask 0, .replace [quayAt "[::2]"], .clear, .put 0, .visit "quay", .look 1]
      (start 60000 [quayAt "[::1]"])
    (∀ i service definition, ¬ s.Builds i service definition) ∧
      ∃ e ∈ s.cache.entries, ¬ (Directory.ofServices [quayAt "[::2]"]).Backs e ∧
        s.visits[1]? = some ⟨"quay", .done (.ok e)⟩ := by
  intro s
  obtain ⟨e, hentries, hvisits, hservice, hold⟩ : ∃ e, s.cache.entries = [e] ∧
      s.visits = [⟨"quay", .done (.ok e)⟩, ⟨"quay", .done (.ok e)⟩] ∧ e.service = "quay" ∧
        Cache.readTarget "http://[::1]/" = .ok e.target := ⟨_, rfl, rfl, rfl, rfl⟩
  refine ⟨fun i service definition hi => ?_, e, by rw [hentries]; exact List.mem_singleton_self e, ?_, by rw [hvisits]; rfl⟩
  · have hbuilding : (⟨service, .building definition⟩ : Visit) ∈ s.visits := List.mem_of_getElem? hi
    rw [hvisits] at hbuilding
    simp at hbuilding
  · rintro ⟨definition, hlookup, htarget, -⟩
    have hnew : (Directory.ofServices [quayAt "[::2]"]).lookup "quay" = .ok (quayAt "[::2]").definition := rfl
    have hmoved : Cache.readTarget "http://[::2]/" ≠ Cache.readTarget "http://[::1]/" := by decide +kernel
    rw [hservice, hnew] at hlookup
    cases hlookup
    exact hmoved (htarget.trans hold.symm)

end Traffic
end Cache
end CredentialGateway
