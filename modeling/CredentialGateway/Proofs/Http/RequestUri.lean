import CredentialGateway.Http.RequestUri

/-! The characters that a request target can have. -/

namespace CredentialGateway.Http.RequestUri

variable {cs kept : List Char} {uri : RequestUri}

theorem visible_of_pathAndQuery? (h : pathAndQuery? cs = some kept) : ∀ c ∈ kept, 0x21 ≤ c.toNat := by
  unfold pathAndQuery? at h
  dsimp only at h
  split at h
  · rename_i hchars
    rw [Bool.and_eq_true, List.all_eq_true, List.all_eq_true] at hchars
    obtain ⟨hpath, hquery⟩ := hchars
    cases h
    intro c hc
    rw [← List.takeWhile_append_dropWhile (p := (· ≠ '?')) (l := cs.takeWhile (· ≠ '#'))] at hc
    rcases List.mem_append.mp hc with hc | hc
    · exact (by simpa [isPathChar] using hpath c hc : 0x21 ≤ c.toNat ∧ _).1
    · -- Between path and query stands the question mark.
      cases hrest : (cs.takeWhile (· ≠ '#')).dropWhile (· ≠ '?') with
      | nil =>
        rw [hrest] at hc
        cases hc
      | cons d rest =>
        rw [hrest] at hc hquery
        rcases List.mem_cons.mp hc with rfl | hc
        · have hmark := List.head?_dropWhile_not (p := (· ≠ '?')) (l := cs.takeWhile (· ≠ '#'))
          rw [hrest] at hmark
          have hc : c = '?' := by simpa using hmark
          rw [hc]
          decide
        · exact (by simpa [isQueryChar] using hquery c hc : 0x21 ≤ c.toNat ∧ _).1
  · cases h

theorem visible_of_parse? {s : String} (h : parse? s = some uri) : ∀ c ∈ uri.pathAndQuery, 0x21 ≤ c.toNat := by
  have hsingle {c : Char} (hc : 0x21 ≤ c.toNat) : ∀ d ∈ [c], 0x21 ≤ d.toNat := by
    simpa only [List.mem_singleton, forall_eq] using hc
  unfold parse? at h
  split at h
  · cases h
  · unfold ofChars? at h
    split at h
    · cases h
    · cases h
      exact hsingle (by decide)
    · obtain ⟨kept, hkept, rfl⟩ := Option.map_eq_some_iff.mp h
      exact visible_of_pathAndQuery? hkept
    · dsimp only at h
      split at h
      · split at h
        · cases h
        · obtain ⟨kept, hkept, rfl⟩ := Option.map_eq_some_iff.mp h
          rw [pathAndQuery]
          split
          · exact hsingle (by decide)
          · exact visible_of_pathAndQuery? hkept
      · split at h
        · cases h
          exact hsingle (by decide)
        · cases h

end CredentialGateway.Http.RequestUri
