import CredentialGateway.Cache.Basic

/-! What a lookup in the cache can find, and that it only ever removes. -/

namespace CredentialGateway.Cache

variable {c : Cache} {now : Nat} {service : String} {e : CacheEntry}

theorem find?_spec (h : c.find? service = some e) : e ∈ c.entries ∧ e.service = service := by
  have hservice := List.find?_some h
  exact ⟨List.mem_of_find?_eq_some h, by simpa using hservice⟩

theorem mem_of_mem_get (h : e ∈ (c.get now service).2.entries) : e ∈ c.entries := by
  unfold get at h
  split at h
  · exact h
  · split at h
    · exact (List.mem_filter.mp h).1
    · exact h

theorem find?_of_get (h : (c.get now service).1 = some e) : c.find? service = some e := by
  unfold get at h
  split at h
  · cases h
  · rename_i found hfound
    split at h
    · cases h
    · exact hfound.trans h

theorem find?_filter {p : CacheEntry → Bool} (hp : ∀ e, e.service = service → p e = true) (es : List CacheEntry) :
    (es.filter p).find? (fun e => e.service == service) = es.find? fun e => e.service == service := by
  rw [List.find?_filter]
  congr 1
  funext e
  by_cases he : e.service = service
  · simp [he, hp e he]
  · simp [he]

theorem find?_get_of_ne {other : String} (h : other ≠ service) : (c.get now service).2.find? other = c.find? other := by
  unfold get
  split
  · rfl
  · rename_i e he
    split
    · refine find?_filter (fun f hf => ?_) c.entries
      have hne : f.service ≠ e.service := by rwa [hf, (find?_spec he).2]
      simp [hne]
    · rfl

theorem find?_insert_of_ne {other : String} (h : other ≠ service) (now : Nat) (target : Url) (strategy : Strategy) :
    (c.insert now service target strategy).2.find? other = c.find? other := by
  have hkept : (c.entries.filter fun f => f.service != service).find? (fun e => e.service == other) = c.find? other :=
    find?_filter (fun f hf => by simp [hf, h]) c.entries
  have hnew : (service == other) = false := by simpa using h.symm
  rw [find?, insert, List.find?_append, hkept]
  simp [hnew]

end CredentialGateway.Cache
