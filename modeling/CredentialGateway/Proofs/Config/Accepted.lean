import CredentialGateway.Config.Validation
import Mathlib.Data.List.Nodup

/-! What holds of the services of a configuration in which validation finds nothing wrong. -/

namespace CredentialGateway.Config

structure IsSound (s : Service) : Prop where
  named : isBlankId s.id = false
  urls : ∀ u ∈ serviceUrls s, isUrl u.2 = true

variable {seen : List String} {index : Nat} {s : Service} {services : List Service} {c : Config}

theorem checkService_eq_nil_iff : checkService seen s = [] ↔ (∀ u ∈ serviceUrls s, isUrl u.2 = true) ∧ s.id ∉ seen := by
  rw [checkService, List.append_eq_nil_iff, List.filterMap_eq_nil_iff]
  constructor
  · rintro ⟨hseen, hurls⟩
    refine ⟨fun u hu => ?_, fun hmem => ?_⟩
    · by_contra hinvalid
      have hurl := hurls u hu
      dsimp only at hurl
      rw [if_neg hinvalid] at hurl
      cases hurl
    · rw [if_pos (List.contains_iff_mem.mpr hmem)] at hseen
      cases hseen
  · rintro ⟨hurls, hseen⟩
    exact ⟨if_neg fun hmem => hseen (List.contains_iff_mem.mp hmem), fun u hu => if_pos (hurls u hu)⟩

theorem checkServices_eq_nil_iff : checkServices seen index services = [] ↔
    (∀ s ∈ services, IsSound s ∧ s.id ∉ seen) ∧ (services.map Service.id).Nodup := by
  induction services generalizing seen index with
  | nil => simp [checkServices]
  | cons s rest ih =>
    rw [checkServices, List.forall_mem_cons, List.map_cons, List.nodup_cons, List.mem_map]
    split
    · rename_i hblank
      constructor
      · intro h
        cases h
      · rintro ⟨⟨⟨hsound, -⟩, -⟩, -⟩
        rw [hsound.named] at hblank
        cases hblank
    · rename_i hnamed
      rw [List.append_eq_nil_iff, checkService_eq_nil_iff, ih]
      constructor
      · rintro ⟨⟨hurls, hs⟩, hrest, hnodup⟩
        refine ⟨⟨⟨⟨by simpa using hnamed, hurls⟩, hs⟩, fun t ht => ?_⟩, ?_, hnodup⟩
        · obtain ⟨hsound, hfresh⟩ := hrest t ht
          exact ⟨hsound, fun hmem => hfresh (List.mem_cons_of_mem s.id hmem)⟩
        · rintro ⟨t, ht, hid⟩
          exact (hrest t ht).2 (hid ▸ List.mem_cons_self)
      · rintro ⟨⟨⟨hsound, hs⟩, hrest⟩, hnew, hnodup⟩
        refine ⟨⟨hsound.urls, hs⟩, fun t ht => ⟨(hrest t ht).1, fun hmem => ?_⟩, hnodup⟩
        rcases List.mem_cons.mp hmem with hid | hmem
        · exact hnew ⟨t, ht, hid⟩
        · exact (hrest t ht).2 hmem

theorem services_of_accepted (h : c.violations = []) :
    (∀ s ∈ c.services, IsSound s) ∧ (c.services.map Service.id).Nodup := by
  obtain ⟨-, hservices⟩ := List.append_eq_nil_iff.mp h
  obtain ⟨hsound, hnodup⟩ := checkServices_eq_nil_iff.mp hservices
  exact ⟨fun s hs => (hsound s hs).1, hnodup⟩

theorem eq_of_id_eq (h : c.violations = []) {t : Service} (hs : s ∈ c.services) (ht : t ∈ c.services)
    (hid : s.id = t.id) : s = t :=
  List.inj_on_of_nodup_map (services_of_accepted h).2 hs ht hid

end CredentialGateway.Config
