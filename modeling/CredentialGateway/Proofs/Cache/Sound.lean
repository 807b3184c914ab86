import CredentialGateway.Proofs.Cache.Basic
import Mathlib.Data.List.Pairwise

/-! Caches as they come about: one entry per service, and none from the future. In such a cache a lookup removes nothing
that is still alive. -/

namespace CredentialGateway.Cache

variable {c : Cache} {now time : Nat} {service : String} {a b e : CacheEntry}

structure Sound (c : Cache) (now : Nat) : Prop where
  distinct : c.entries.Pairwise fun a b => a.service ≠ b.service
  created : ∀ e ∈ c.entries, e.created ≤ now

def live (c : Cache) (now : Nat) : List CacheEntry := c.entries.filter fun e => !e.isExpired c.ttl now

theorem mem_live : e ∈ c.live now ↔ e ∈ c.entries ∧ e.isExpired c.ttl now = false := by
  simp [live]

theorem not_isExpired_of_le {ttl : Nat} (hle : now ≤ time) (h : e.isExpired ttl time = false) :
    e.isExpired ttl now = false := by
  simp only [CacheEntry.isExpired, decide_eq_false_iff_not] at h ⊢
  omega

theorem sound_empty (ttl now : Nat) : (empty ttl).Sound now := ⟨.nil, fun _ he => nomatch he⟩

namespace Sound

theorem mono (h : c.Sound now) (hle : now ≤ time) : c.Sound time :=
  ⟨h.distinct, fun e he => Nat.le_trans (h.created e he) hle⟩

theorem eq_of_service (h : c.Sound now) (ha : a ∈ c.entries) (hb : b ∈ c.entries) (hab : a.service = b.service) :
    a = b := by
  by_contra hne
  have hsymm : Std.Symm fun a b : CacheEntry => a.service ≠ b.service := ⟨fun _ _ => Ne.symm⟩
  exact h.distinct.forall ha hb hne hab

theorem find?_of_mem (h : c.Sound now) (he : e ∈ c.entries) : c.find? e.service = some e := by
  have hsome : (c.find? e.service).isSome := by
    rw [find?, List.find?_isSome]
    exact ⟨e, he, beq_self_eq_true _⟩
  obtain ⟨f, hf⟩ := Option.isSome_iff_exists.mp hsome
  obtain ⟨hmem, hservice⟩ := find?_spec hf
  rw [hf, h.eq_of_service hmem he hservice]

theorem filter (h : c.Sound now) (p : CacheEntry → Bool) : ({ c with entries := c.entries.filter p }).Sound now :=
  ⟨h.distinct.filter p, fun e he => h.created e (List.mem_filter.mp he).1⟩

theorem clear (now : Nat) : c.clear.Sound now := ⟨.nil, fun _ he => nomatch he⟩

theorem insert (h : c.Sound now) (service : String) (target : Url) (strategy : Strategy) :
    (c.insert now service target strategy).2.Sound now := by
  constructor
  · show List.Pairwise _ (c.entries.filter _ ++ [_])
    rw [List.pairwise_append]
    refine ⟨h.distinct.filter _, List.pairwise_singleton _ _, fun a ha b hb => ?_⟩
    obtain rfl := List.mem_singleton.mp hb
    simpa using (List.mem_filter.mp ha).2
  · intro e he
    obtain hold | hnew := List.mem_append.mp he
    · exact h.created e (List.mem_filter.mp hold).1
    · obtain rfl := List.mem_singleton.mp hnew
      exact Nat.le_refl now

theorem mem_removeIfSame (h : c.Sound now) (ha : a ∈ c.entries) (he : e ∈ c.entries) (hne : a ≠ e) :
    a ∈ (c.removeIfSame e).entries := by
  refine List.mem_filter.mpr ⟨ha, ?_⟩
  have hservice : a.service ≠ e.service := fun hsame => hne (h.eq_of_service ha he hsame)
  simp [hservice]

theorem find?_filter (h : c.Sound now) (p : CacheEntry → Bool) (service : String) :
    ({ c with entries := c.entries.filter p }).find? service = (c.find? service).filter p := by
  have hkept := h.filter p
  rcases hfind : c.find? service with - | e
  · rw [Option.filter_none, find?, List.find?_eq_none]
    intro f hf
    exact List.find?_eq_none.mp hfind f (List.mem_filter.mp hf).1
  · obtain ⟨hmem, rfl⟩ := find?_spec hfind
    rw [Option.filter_some]
    split
    · rename_i hp
      exact hkept.find?_of_mem (List.mem_filter.mpr ⟨hmem, hp⟩)
    · rename_i hp
      rw [find?, List.find?_eq_none]
      intro f hf hservice
      obtain ⟨hold, hpf⟩ := List.mem_filter.mp hf
      rw [h.eq_of_service hold hmem (beq_iff_eq.mp hservice)] at hpf
      exact hp hpf

end Sound

def liveEntry (c : Cache) (now : Nat) (service : String) : Option CacheEntry :=
  (c.find? service).filter fun e => !e.isExpired c.ttl now

theorem get_eq_liveEntry (c : Cache) (now : Nat) (service : String) : (c.get now service).1 = c.liveEntry now service := by
  unfold get liveEntry
  cases c.find? service with
  | none => rfl
  | some e => cases hexpired : e.isExpired c.ttl now <;> simp [hexpired, Option.filter_some]

theorem liveEntry_of_le (hle : now ≤ time) (c : Cache) (service : String) :
    c.liveEntry time service = (c.liveEntry now service).filter fun e => !e.isExpired c.ttl time := by
  unfold liveEntry
  rw [Option.filter_filter]
  congr 1
  funext e
  cases hexpired : e.isExpired c.ttl time with
  | true => rw [Bool.not_true, Bool.and_false]
  | false => rw [not_isExpired_of_le hle hexpired, Bool.and_self]

theorem liveEntry_insert (c : Cache) (now : Nat) (name : String) (target : Url) (strategy : Strategy) (service : String) :
    (c.insert now name target strategy).2.liveEntry now service =
      if name = service then (some (c.insert now name target strategy).1).filter fun e => !e.isExpired c.ttl now
      else c.liveEntry now service := by
  unfold liveEntry
  split
  · rename_i hname
    subst hname
    have hnone : (c.entries.filter fun f => f.service != name).find? (fun e => e.service == name) = none := by
      rw [List.find?_eq_none]
      intro f hf hservice
      simp_all
    have hself : (c.insert now name target strategy).2.find? name = some (c.insert now name target strategy).1 := by
      simp [find?, insert, List.find?_append, hnone]
    rw [hself]
    rfl
  · rename_i hname
    rw [find?_insert_of_ne (Ne.symm hname)]
    rfl

theorem exists_filter_get (c : Cache) (now : Nat) (service : String) :
    ∃ p, (c.get now service).2 = { c with entries := c.entries.filter p } := by
  have hsame : c = { c with entries := c.entries.filter fun _ => true } := by
    rw [List.filter_eq_self.mpr fun _ _ => rfl]
  unfold get
  split
  · exact ⟨_, hsame⟩
  · split
    · exact ⟨_, rfl⟩
    · exact ⟨_, hsame⟩

namespace Sound

theorem liveEntry_evictExpired (h : c.Sound now) (time : Nat) (service : String) :
    (c.evictExpired time).liveEntry time service = c.liveEntry time service := by
  have hfind : (c.evictExpired time).find? service = (c.find? service).filter fun e => !e.isExpired c.ttl time :=
    h.find?_filter _ service
  change ((c.evictExpired time).find? service).filter (fun e => !e.isExpired c.ttl time) = _
  simp only [hfind, Option.filter_filter, Bool.and_self, liveEntry]

theorem liveEntry_get (h : c.Sound now) (time : Nat) (name service : String) :
    (c.get time name).2.liveEntry time service = c.liveEntry time service := by
  unfold get
  split
  · rfl
  · rename_i e he
    split
    · rename_i hexpired
      obtain ⟨hmem, -⟩ := find?_spec he
      have hfind : (c.removeIfSame e).find? service = _ := h.find?_filter _ service
      change ((c.removeIfSame e).find? service).filter (fun e => !e.isExpired c.ttl time) = _
      rw [hfind, liveEntry]
      rcases hother : c.find? service with - | f
      · rfl
      · -- What goes is found only under its own service, and is not alive.
        by_cases hsame : f = e
        · subst hsame
          simp [Option.filter_some, hexpired]
        · have hservice : f.service ≠ e.service := mt (h.eq_of_service (find?_spec hother).1 hmem) hsame
          simp [Option.filter_some, hservice]
    · rfl

end Sound

end CredentialGateway.Cache
