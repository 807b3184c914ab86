import CredentialGateway.Cache.Sweeper
import CredentialGateway.Proofs.Cache.Sound
import Mathlib.Data.List.Induction

/-! A cache over its whole history. What it has of a service is what was put for it last, until that is too old; which
lookups and sweeps there were cannot be told from it. -/

namespace CredentialGateway

namespace SweptCache

inductive Operation
  | put (service targetUrl : String) (strategy : Strategy)
  | get (service : String)
  | evict
  | clear
  | advance (millis : Nat)
  | shutdown

namespace Operation

def lasts : Operation → Bool
  | put .. | clear | advance _ => true
  | get _ | evict | shutdown => false

def stores : Operation → Bool
  | put _ targetUrl _ => (Cache.readTarget targetUrl).toBool
  | _ => false

def millis : Operation → Nat
  | advance n => n
  | _ => 0

end Operation

def start (ttl : Nat) (sweeping : Sweeping) : SweptCache := ⟨.empty ttl, 0, sweeping⟩

def perform (s : SweptCache) : Operation → SweptCache
  | .put service targetUrl strategy =>
    match s.cache.put s.clock service targetUrl strategy with
    | .ok (_, cache) => { s with cache }
    | .error _ => s
  | .get service => { s with cache := (s.cache.get s.clock service).2 }
  | .evict => { s with cache := s.cache.evictExpired s.clock }
  | .clear => { s with cache := s.cache.clear }
  | .advance millis => s.advance millis
  | .shutdown => s.shutdown

def run : List Operation → SweptCache → SweptCache
  | [], s => s
  | a :: as, s => run as (s.perform a)

def elapsed : List Operation → Nat
  | [] => 0
  | a :: ops => a.millis + elapsed ops

/-- The entry that was put last for a service since the cache was last cleared. The history begins with what was done
last. -/
def lastPut (service : String) : List Operation → Option CacheEntry
  | [] => none
  | .clear :: _ => none
  | .put name targetUrl strategy :: past =>
    match Cache.readTarget targetUrl with
    | .ok target =>
      if name = service then some ⟨service, target, strategy, elapsed past, past.countP Operation.stores⟩
      else lastPut service past
    | .error _ => lastPut service past
  | _ :: past => lastPut service past

variable {ttl : Nat} {ops : List Operation} {s : SweptCache} {a : Operation} {service : String}

theorem run_concat (ops : List Operation) (a : Operation) (s : SweptCache) :
    run (ops ++ [a]) s = (run ops s).perform a := by
  induction ops generalizing s with
  | nil => rfl
  | cons b ops ih => exact ih (s.perform b)

theorem elapsed_concat (ops : List Operation) (a : Operation) : elapsed (ops ++ [a]) = elapsed ops + a.millis := by
  induction ops with
  | nil => exact Nat.add_comm a.millis 0
  | cons b ops ih => rw [List.cons_append, elapsed, elapsed, ih, Nat.add_assoc]

theorem elapsed_reverse (ops : List Operation) : elapsed ops.reverse = elapsed ops := by
  induction ops with
  | nil => rfl
  | cons a ops ih => rw [List.reverse_cons, elapsed_concat, elapsed, ih, Nat.add_comm]

theorem elapsed_filter (ops : List Operation) : elapsed (ops.filter Operation.lasts) = elapsed ops := by
  induction ops with
  | nil => rfl
  | cons a ops ih =>
    rw [List.filter_cons]
    split
    · rw [elapsed, elapsed, ih]
    · rename_i ha
      have hmillis : a.millis = 0 := by cases a <;> first | rfl | exact absurd rfl ha
      rw [elapsed, hmillis, Nat.zero_add, ih]

theorem lastPut_filter (service : String) (ops : List Operation) :
    lastPut service (ops.filter Operation.lasts) = lastPut service ops := by
  induction ops with
  | nil => rfl
  | cons a ops ih =>
    cases a with
    | get _ | evict | shutdown => exact ih
    | clear => rfl
    | advance _ => exact ih
    | put name targetUrl strategy =>
      have hcount : (ops.filter Operation.lasts).countP Operation.stores = ops.countP Operation.stores := by
        rw [List.countP_filter]
        exact List.countP_congr fun a _ => by cases a <;> simp [Operation.stores, Operation.lasts]
      rw [List.filter_cons_of_pos rfl, lastPut, lastPut, elapsed_filter, hcount, ih]

theorem advance_cases (s : SweptCache) (millis : Nat) :
    (s.advance millis).clock = s.clock + millis ∧
      ((s.advance millis).cache = s.cache ∨ (s.advance millis).cache = s.cache.evictExpired (s.clock + millis)) := by
  unfold advance
  dsimp only
  split
  · refine ⟨rfl, ?_⟩
    dsimp only
    split
    · exact .inr rfl
    · exact .inl rfl
  · exact ⟨rfl, .inl rfl⟩

theorem shutdown_spec (s : SweptCache) : s.shutdown.clock = s.clock ∧ s.shutdown.cache = s.cache := by
  unfold shutdown
  split <;> exact ⟨rfl, rfl⟩

theorem perform_put_of_ok {targetUrl : String} {target : Url} (htarget : Cache.readTarget targetUrl = .ok target)
    (s : SweptCache) (name : String) (strategy : Strategy) :
    s.perform (.put name targetUrl strategy) = { s with cache := (s.cache.insert s.clock name target strategy).2 } := by
  simp only [perform, Cache.put, htarget]

theorem perform_put_of_error {targetUrl reason : String} (htarget : Cache.readTarget targetUrl = .error reason)
    (s : SweptCache) (name : String) (strategy : Strategy) : s.perform (.put name targetUrl strategy) = s := by
  simp only [perform, Cache.put, htarget]

structure Reflects (ttl : Nat) (ops : List Operation) (s : SweptCache) : Prop where
  limit : s.cache.ttl = ttl
  clock : s.clock = elapsed ops
  stored : s.cache.stored = ops.countP Operation.stores
  sound : s.cache.Sound s.clock
  live : ∀ service, s.cache.liveEntry s.clock service =
    (lastPut service ops.reverse).filter fun e => !e.isExpired ttl s.clock

namespace Reflects

theorem start (ttl : Nat) (sweeping : Sweeping) : Reflects ttl [] (start ttl sweeping) :=
  ⟨rfl, rfl, rfl, Cache.sound_empty ttl 0, fun _ => rfl⟩

theorem lastPut_put (h : Reflects ttl ops s) {targetUrl : String} {target : Url}
    (htarget : Cache.readTarget targetUrl = .ok target) (name : String) (strategy : Strategy) (service : String) :
    lastPut service (.put name targetUrl strategy :: ops.reverse) =
      if name = service then some (s.cache.insert s.clock name target strategy).1 else lastPut service ops.reverse := by
  rw [lastPut, htarget]
  dsimp only
  split
  · rename_i hname
    rw [elapsed_reverse, List.countP_reverse, ← h.clock, ← h.stored, ← hname]
    rfl
  · rfl

theorem next (h : Reflects ttl ops s) {t : SweptCache} (hlimit : t.cache.ttl = s.cache.ttl)
    (hclock : t.clock = s.clock + a.millis) (hstored : t.cache.stored = s.cache.stored + if a.stores then 1 else 0)
    (hsound : t.cache.Sound t.clock)
    (hlive : ∀ service, t.cache.liveEntry t.clock service =
      (lastPut service (a :: ops.reverse)).filter fun e => !e.isExpired ttl t.clock) : Reflects ttl (ops ++ [a]) t := by
  refine ⟨hlimit.trans h.limit, ?_, ?_, hsound, fun service => ?_⟩
  · rw [hclock, h.clock, elapsed_concat]
  · rw [hstored, h.stored, List.countP_append, List.countP_singleton]
  · rw [List.reverse_concat]
    exact hlive service

theorem elapse (h : Reflects ttl ops s) (hstores : a.stores = false)
    (hlast : ∀ service, lastPut service (a :: ops.reverse) = lastPut service ops.reverse) {t : SweptCache}
    (hclock : t.clock = s.clock + a.millis)
    (hcache : ∃ p, t.cache = { s.cache with entries := s.cache.entries.filter p })
    (hlive : ∀ service, t.cache.liveEntry t.clock service = s.cache.liveEntry t.clock service) :
    Reflects ttl (ops ++ [a]) t := by
  obtain ⟨p, hcache⟩ := hcache
  have hle : s.clock ≤ t.clock := hclock ▸ Nat.le_add_right _ _
  refine h.next (by rw [hcache]) hclock (by rw [hcache]; simp [hstores]) ?_ fun service => ?_
  · rw [hcache]
    exact (h.sound.filter p).mono hle
  · rw [hlive, hlast, Cache.liveEntry_of_le hle, h.live, h.limit, Option.filter_filter]
    congr 1
    funext e
    cases hexpired : e.isExpired ttl t.clock with
    | true => rw [Bool.not_true, Bool.and_false]
    | false => rw [Cache.not_isExpired_of_le hle hexpired, Bool.and_self]

theorem idle (h : Reflects ttl ops s) (hstores : a.stores = false)
    (hlast : ∀ service, lastPut service (a :: ops.reverse) = lastPut service ops.reverse) {t : SweptCache}
    (hclock : t.clock = s.clock + a.millis) (hcache : t.cache = s.cache) : Reflects ttl (ops ++ [a]) t := by
  refine h.elapse hstores hlast hclock ⟨fun _ => true, ?_⟩ fun service => by rw [hcache]
  rw [hcache, List.filter_eq_self.mpr fun _ _ => rfl]

theorem perform (h : Reflects ttl ops s) (a : Operation) : Reflects ttl (ops ++ [a]) (s.perform a) := by
  cases a with
  | put name targetUrl strategy =>
    rcases htarget : Cache.readTarget targetUrl with reason | target
    · rw [perform_put_of_error htarget]
      refine h.next rfl rfl ?_ h.sound fun service => ?_
      · simp [Operation.stores, htarget, Except.toBool]
      · rw [lastPut, htarget]
        exact h.live service
    · rw [perform_put_of_ok htarget]
      refine h.next rfl rfl ?_ (h.sound.insert name target strategy) fun service => ?_
      · simp [Operation.stores, htarget, Except.toBool, Cache.insert]
      · rw [h.lastPut_put htarget, Cache.liveEntry_insert, h.live, h.limit]
        split <;> rfl
  | get name =>
    exact h.elapse rfl (fun _ => rfl) rfl (s.cache.exists_filter_get s.clock name) (h.sound.liveEntry_get s.clock name)
  | evict => exact h.elapse rfl (fun _ => rfl) rfl ⟨_, rfl⟩ (h.sound.liveEntry_evictExpired s.clock)
  | clear => exact h.next rfl rfl rfl (.clear s.clock) fun _ => rfl
  | advance millis =>
    obtain ⟨hclock, hkept | hswept⟩ := advance_cases s millis
    · exact h.idle rfl (fun _ => rfl) hclock hkept
    · refine h.elapse rfl (fun _ => rfl) hclock ⟨_, hswept⟩ fun service => ?_
      rw [SweptCache.perform, hswept, hclock]
      exact h.sound.liveEntry_evictExpired _ service
  | shutdown =>
    obtain ⟨hclock, hcache⟩ := shutdown_spec s
    exact h.idle rfl (fun _ => rfl) hclock hcache

theorem run (ttl : Nat) (sweeping : Sweeping) (ops : List Operation) :
    Reflects ttl ops (run ops (SweptCache.start ttl sweeping)) := by
  induction ops using List.reverseRecOn with
  | nil => exact .start ttl sweeping
  | append_singleton ops a ih =>
    rw [run_concat]
    exact ih.perform a

theorem isExpired_eq (h : Reflects ttl ops s) (e : CacheEntry) :
    e.isExpired s.cache.ttl s.clock = decide (ttl ≤ elapsed ops - e.created) := by
  rw [CacheEntry.isExpired, h.limit, h.clock]

theorem get_eq (h : Reflects ttl ops s) (service : String) :
    (s.cache.get s.clock service).1 =
      (lastPut service ops.reverse).filter fun e => decide (elapsed ops - e.created < ttl) := by
  rw [Cache.get_eq_liveEntry, h.live]
  congr 1
  funext e
  rw [← h.limit, h.isExpired_eq, h.limit, ← decide_not]
  exact decide_eq_decide.mpr Nat.not_le

end Reflects

/-- A lookup answers with the entry that was put last for its service since the cache was last cleared, if that is
younger than entries may get. A put that fails changes nothing. Histories that differ only in lookups and sweeps, and in
how the sweeper runs, cannot be told apart by a lookup. A sweep removes the entries that are too old, and counts them. -/
theorem lookups_tell_last_put (ttl : Nat) (sweeping : Sweeping) (ops : List Operation) :
    let s := run ops (start ttl sweeping)
    (∀ service, (s.cache.get s.clock service).1 =
        (lastPut service ops.reverse).filter fun e => decide (elapsed ops - e.created < ttl)) ∧
      (∀ service targetUrl strategy,
        match s.cache.put s.clock service targetUrl strategy with
        | .ok (e, _) => lastPut service (.put service targetUrl strategy :: ops.reverse) = some e
        | .error _ => s.perform (.put service targetUrl strategy) = s) ∧
      (∀ others sweeping', others.filter Operation.lasts = ops.filter Operation.lasts →
        let t := run others (start ttl sweeping')
        ∀ service, (t.cache.get t.clock service).1 = (s.cache.get s.clock service).1) ∧
      (∀ e, e ∈ (s.perform .evict).cache.entries ↔ e ∈ s.cache.entries ∧ elapsed ops - e.created < ttl) ∧
      s.cache.expiredCount s.clock = s.cache.entries.countP fun e => decide (ttl ≤ elapsed ops - e.created) := by
  intro s
  have h : Reflects ttl ops s := .run ttl sweeping ops
  refine ⟨h.get_eq, fun service targetUrl strategy => ?_, ?_, fun e => ?_, ?_⟩
  · rw [Cache.put]
    rcases htarget : Cache.readTarget targetUrl with reason | target
    · exact perform_put_of_error htarget s service strategy
    · exact (h.lastPut_put htarget service strategy service).trans (if_pos rfl)
  · -- Both histories have the same last puts and take the same time, and nothing else counts.
    intro others sweeping' hsame t service
    have ht : Reflects ttl others t := .run ttl sweeping' others
    rw [ht.get_eq, h.get_eq, ← lastPut_filter, ← lastPut_filter service ops.reverse, List.filter_reverse,
      List.filter_reverse, ← elapsed_filter, ← elapsed_filter ops, hsame]
  · have hlive : e ∈ (s.perform .evict).cache.entries ↔ e ∈ s.cache.entries ∧ _ := Cache.mem_live
    rw [hlive, h.isExpired_eq, decide_eq_false_iff_not, Nat.not_le]
  · have hsplit := s.cache.entries.length_eq_countP_add_countP fun e => e.isExpired s.cache.ttl s.clock
    simp only [← h.isExpired_eq, Cache.expiredCount, Cache.size, Cache.evictExpired, ← List.countP_eq_length_filter]
    simp only [Bool.not_eq_true, Bool.decide_eq_false] at hsplit
    omega

/-- An entry is found up to the moment at which it gets too old, however often it was looked for and swept before. -/
theorem lookups_tell_last_put_quay :
    let put := Operation.put "quay" "http://[::1]/" ⟨.none, none⟩
    let searched := run [.get "quay", put, .evict, .advance 59999, .get "quay", .evict] (start 60000 .absent)
    let swept := run [put, .put "quay" "quay" ⟨.none, none⟩, .advance 60000] (start 60000 (.running (.start 30000 0)))
    (searched.cache.get searched.clock "quay").1.map CacheEntry.service = some "quay" ∧
      (swept.cache.get swept.clock "quay").1 = none := by
  intro put searched swept
  obtain ⟨hget, -, hsame, -⟩ := lookups_tell_last_put 60000 .absent [put, .advance 59999]
  obtain ⟨hlast, -⟩ := lookups_tell_last_put 60000 (.running (.start 30000 0))
    [put, .put "quay" "quay" ⟨.none, none⟩, .advance 60000]
  have htold : (searched.cache.get searched.clock "quay").1 = _ :=
    hsame [.get "quay", put, .evict, .advance 59999, .get "quay", .evict] .absent rfl "quay"
  refine ⟨?_, (hlast "quay").trans (by decide +kernel)⟩
  rw [htold, hget]
  decide +kernel

end SweptCache
end CredentialGateway
