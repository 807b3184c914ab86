import CredentialGateway.Network.Client

/-! What the operations on headers do to the values of a name. -/

namespace CredentialGateway

namespace Http.Headers

variable (h : Headers) (n m : HeaderName) (v : HeaderValue)

theorem all_filter (p : HeaderName → Bool) (l : List (HeaderName × HeaderValue)) :
    all ⟨l.filter fun e => p e.1⟩ m = if p m then all ⟨l⟩ m else [] := by
  simp only [all, List.filter_filter]
  split
  · rename_i hm
    congr 1
    refine List.filter_congr fun e _ => ?_
    by_cases he : e.1 = m
    · rw [he, hm, Bool.and_true]
    · simp [he]
  · rename_i hm
    rw [List.map_eq_nil_iff, List.filter_eq_nil_iff]
    intro e _
    by_cases he : e.1 = m
    · simp [he, hm]
    · simp [he]

theorem all_append (l k : List (HeaderName × HeaderValue)) : all ⟨l ++ k⟩ m = all ⟨l⟩ m ++ all ⟨k⟩ m := by
  simp only [all, List.filter_append, List.map_append]

theorem all_add_self : (h.add n v).all n = h.all n ++ [v] := by
  rw [add, all_append]
  simp [all]

theorem all_add_of_ne (hne : m ≠ n) : (h.add n v).all m = h.all m := by
  rw [add, all_append]
  simp [all, hne.symm]

theorem all_eraseAll (ns : List HeaderName) : (h.eraseAll ns).all m = if m ∈ ns then [] else h.all m := by
  rw [eraseAll, all_filter m (fun k => !ns.contains k)]
  by_cases hm : m ∈ ns <;> simp [hm]

theorem contains_iff : h.contains n = true ↔ h.all n ≠ [] := by
  simp only [contains, all, List.any_eq_true, ne_eq, List.map_eq_nil_iff, List.filter_eq_nil_iff]
  constructor
  · rintro ⟨e, he, hn⟩ hall
    exact hall e he hn
  · intro hall
    simpa using hall

theorem mem_names_iff : n ∈ h.entries.map Prod.fst ↔ h.all n ≠ [] := by
  rw [← contains_iff, contains, List.any_eq_true, List.mem_map]
  exact exists_congr fun e => and_congr_right fun _ => beq_iff_eq.symm

theorem all_override (new : Headers) : (h.override new).all m = if new.all m = [] then h.all m else new.all m := by
  rw [override, all_append]
  change (h.eraseAll (new.entries.map Prod.fst)).all m ++ new.all m = _
  rw [all_eraseAll]
  by_cases hm : new.all m = []
  · rw [if_neg (by rw [mem_names_iff]; exact not_not_intro hm), if_pos hm, hm, List.append_nil]
  · rw [if_pos ((mem_names_iff new m).mpr hm), if_neg hm, List.nil_append]

theorem erase_add_self : (h.add n v).erase n = h.erase n := by
  simp [add, erase]

theorem erase_add_of_ne (hne : n ≠ m) : (h.add n v).erase m = (h.erase m).add n v := by
  simp [add, erase, hne]

theorem erase_erase_comm : (h.erase n).erase m = (h.erase m).erase n := by
  simp only [erase, List.filter_filter]
  congr 1
  exact List.filter_congr fun e _ => Bool.and_comm _ _

theorem erase_erase_self : (h.erase n).erase n = h.erase n := by
  simp [erase]

theorem erase_set_self : (h.set n v).erase n = h.erase n := by
  rw [set, erase_add_self, erase_erase_self]

theorem erase_set_of_ne (hne : n ≠ m) : (h.set n v).erase m = (h.erase m).set n v := by
  rw [set, erase_add_of_ne _ _ _ _ hne, erase_erase_comm, set]

theorem all_erase_of_ne (hne : m ≠ n) : (h.erase n).all m = h.all m := by
  rw [erase, all_filter m (fun k => k != n)]
  simp [hne]

theorem contains_congr {h k : Headers} (hall : h.all n = k.all n) : h.contains n = k.contains n := by
  rw [Bool.eq_iff_iff, contains_iff, contains_iff, hall]

theorem erase_override (new : Headers) : (h.override new).erase m = (h.erase m).override (new.erase m) := by
  have hnames {k : HeaderName} (hk : k ≠ m) :
      ((new.erase m).entries.map Prod.fst).contains k = (new.entries.map Prod.fst).contains k := by
    rw [Bool.eq_iff_iff, List.contains_iff_mem, List.contains_iff_mem, mem_names_iff, mem_names_iff,
      all_erase_of_ne new m k hk]
  simp only [override, eraseAll, erase, List.filter_append, List.filter_filter]
  congr 2
  refine List.filter_congr fun e _ => ?_
  by_cases he : e.1 = m
  · simp [he]
  · change (e.1 != m && !(new.entries.map Prod.fst).contains e.1) =
      (!((new.erase m).entries.map Prod.fst).contains e.1 && e.1 != m)
    rw [hnames he, Bool.and_comm]

end Http.Headers

namespace Call
open Http

theorem all_withAccept (h : Headers) (n : HeaderName) :
    (withAccept h).all n = if n = .accept ∧ h.all n = [] then [anything] else h.all n := by
  unfold withAccept
  split
  · rename_i hc
    rw [Headers.contains_iff] at hc
    rw [if_neg (by rintro ⟨rfl, hn⟩; exact hc hn)]
  · rename_i hc
    rw [Headers.contains_iff, ne_eq, Decidable.not_not] at hc
    by_cases hn : n = .accept
    · rw [hn, Headers.all_add_self, hc, if_pos ⟨rfl, rfl⟩, List.nil_append]
    · rw [Headers.all_add_of_ne h .accept n anything hn, if_neg (fun h => hn h.1)]

theorem all_urlHeaders_of_ne (credentials : Option HeaderValue) {n : HeaderName} (hn : n ≠ .authorization) :
    (urlHeaders credentials).all n = [] := by
  cases credentials with
  | none => rfl
  | some v => simp [urlHeaders, Headers.all, Ne.symm hn]

end Call
end CredentialGateway
