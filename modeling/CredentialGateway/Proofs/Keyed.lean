import Mathlib.Data.List.Nodup

/-! Lists of pairs under distinct keys: what a lookup finds, also after pairs were removed by their keys and after one was
added, and that the keys stay distinct. -/

namespace CredentialGateway.Keyed
variable {κ ν : Type}

theorem nodup_keys_filter {l : List (κ × ν)} (h : (l.map Prod.fst).Nodup) (p : κ × ν → Bool) :
    ((l.filter p).map Prod.fst).Nodup := h.sublist (List.filter_sublist.map Prod.fst)

variable [DecidableEq κ]

theorem find?_filter_key (l : List (κ × ν)) (p : κ → Bool) (key : κ) :
    (l.filter fun e => p e.1).find? (fun e => e.1 == key) =
      if p key then l.find? (fun e => e.1 == key) else none := by
  rw [List.find?_filter]
  split
  · rename_i hp
    congr 1
    funext e
    by_cases he : e.1 = key <;> simp [he, hp]
  · rename_i hp
    rw [List.find?_eq_none]
    intro e _
    by_cases he : e.1 = key <;> simp [he, hp]

theorem find?_append_key {l : List (κ × ν)} {new : κ} (h : l.find? (fun e => e.1 == new) = none)
    (v : ν) (key : κ) :
    (l ++ [(new, v)]).find? (fun e => e.1 == key) =
      if key = new then some (new, v) else l.find? (fun e => e.1 == key) := by
  rw [List.find?_append]
  by_cases hk : key = new
  · subst hk
    rw [h, if_pos rfl]
    simp
  · rw [if_neg hk]
    have hne : ((new == key) : Bool) = false := by simpa using Ne.symm hk
    simp [hne]

theorem mem_of_find?_key {l : List (κ × ν)} {key : κ} {e : κ × ν} (h : l.find? (fun e => e.1 == key) = some e) :
    e ∈ l ∧ e.1 = key := by
  have hkey := List.find?_some h
  exact ⟨List.mem_of_find?_eq_some h, eq_of_beq hkey⟩

theorem mem_iff_find?_key {l : List (κ × ν)} (h : (l.map Prod.fst).Nodup) (key : κ) (v : ν) :
    (key, v) ∈ l ↔ (l.find? fun e => e.1 == key).map Prod.snd = some v := by
  constructor
  · intro hmem
    obtain ⟨e, he⟩ : ∃ e, l.find? (fun e => e.1 == key) = some e := by
      rw [← Option.isSome_iff_exists, List.find?_isSome]
      exact ⟨(key, v), hmem, beq_self_eq_true key⟩
    obtain ⟨hfound, hkey⟩ := mem_of_find?_key he
    rw [he, Option.map_some, List.inj_on_of_nodup_map h hfound hmem hkey]
  · intro hfind
    obtain ⟨e, he, rfl⟩ := Option.map_eq_some_iff.mp hfind
    obtain ⟨hfound, rfl⟩ := mem_of_find?_key he
    exact hfound

theorem nodup_keys_append {l : List (κ × ν)} (h : (l.map Prod.fst).Nodup) {new : κ}
    (hnew : l.find? (fun e => e.1 == new) = none) (v : ν) : ((l ++ [(new, v)]).map Prod.fst).Nodup := by
  rw [List.map_append, List.map_singleton]
  refine h.append (List.nodup_singleton new) ?_
  rw [List.disjoint_singleton, List.mem_map]
  rintro ⟨e, he, rfl⟩
  exact List.find?_eq_none.mp hnew e he (beq_self_eq_true e.1)

end CredentialGateway.Keyed
