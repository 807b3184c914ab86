import CredentialGateway.Proofs.Token.Bookkeeping
import Mathlib.Data.List.Induction

/-! Outstanding requests: when each of them began, and that only an invalidation takes one out of the store before it is
answered. -/

namespace CredentialGateway.Token

theorem Fetch.Later.eq_of_unanswered {f g : Fetch} (h : f.Later g) (hg : g.answer = none) : f = g := by
  obtain ⟨key, flight, answer⟩ := f
  obtain ⟨rfl, rfl, hanswer⟩ := h
  cases answer with
  | none => rw [← hg]
  | some a =>
    rw [hanswer (Eq.refl _)] at hg
    cases hg

namespace Traffic

variable {s : Traffic} {i j : Nat} {f g : Fetch}

theorem step_begins {a : Step} (hi : s.fetches[i]? = none) (hg : (s.step a).fetches[i]? = some g) :
    (∃ k w, a = .enter k ∧ s.callers[k]? = some ⟨w, .missed⟩ ∧ w.key = g.key) ∧ s.store.flight? g.key = none ∧
      s.store.cached? s.clock g.key = none ∧ g.answer = none ∧ (s.step a).store.flight? g.key = some g.flight := by
  cases step_change s a with
  | none _ fetches _ | detached _ _ _ fetches _ | forgotten _ _ _ _ _ fetches _ =>
    rw [fetches, hi] at hg
    cases hg
  | opened k w party ready alone uncached store fetches _ =>
    rw [fetches, List.getElem?_append_right (List.getElem?_eq_none_iff.mp hi), List.getElem?_singleton] at hg
    split at hg
    · obtain rfl := Option.some.inj hg
      rw [store, TokenStore.flight?_openFlight alone, if_pos rfl]
      exact ⟨⟨k, w, party, ready, rfl⟩, alone, uncached, rfl, rfl⟩
    · cases hg
  | landed _ _ _ _ _ _ _ _ _ _ fetches _ | stale _ _ _ _ _ _ _ _ fetches _ =>
    rw [fetches, List.getElem?_eq_none_iff.mpr (by rw [List.length_set]; exact List.getElem?_eq_none_iff.mp hi)] at hg
    cases hg

theorem run_begins (as : List Step) (hlength : s.fetches.length ≤ j) (hg : (run as s).fetches[j]? = some g) :
    ∃ bs k w cs, as = bs ++ .enter k :: cs ∧ (run bs s).fetches.length = j ∧
      (run bs s).callers[k]? = some ⟨w, .missed⟩ ∧ w.key = g.key ∧ (run bs s).store.flight? g.key = none ∧
      (run bs s).store.cached? (run bs s).clock g.key = none := by
  induction as generalizing s with
  | nil =>
    have := (List.getElem?_eq_some_iff.mp hg).1
    rw [run] at this
    omega
  | cons a as ih =>
    by_cases hstep : (s.step a).fetches.length ≤ j
    · obtain ⟨bs, k, w, cs, rfl, hbegins⟩ := ih hstep hg
      exact ⟨a :: bs, k, w, cs, rfl, hbegins⟩
    -- This is the step that adds the `j`-th request.
    · have hj : s.fetches.length = j := by
        have := (step_length s a).2
        omega
      have hold : s.fetches[j]? = none := List.getElem?_eq_none_iff.mpr hlength
      obtain ⟨new, hnew⟩ : ∃ new, (s.step a).fetches[j]? = some new := ⟨_, List.getElem?_eq_getElem (by omega)⟩
      obtain ⟨later, hl, hlater⟩ := run_later as hnew
      obtain rfl : later = g := Option.some.inj (hl.symm.trans hg)
      obtain ⟨⟨k, w, rfl, hready, hw⟩, alone, uncached, -⟩ := step_begins hold hnew
      rw [hlater.key]
      exact ⟨[], k, w, as, rfl, hj, hready, hw, alone, uncached⟩

theorem step_registered (hs : Sound s) (a : Step) (hreg : s.store.flight? f.key = some f.flight)
    (hf : (s.step a).fetches[f.flight.generation]? = some f) (hnone : f.answer = none) :
    (s.step a).store.flight? f.key = some f.flight ∨ a = .detach f.key.clientId := by
  cases step_change s a with
  | none store _ _ | stale _ _ _ _ _ _ _ store _ _ =>
    rw [store]
    exact .inl hreg
  | opened _ w _ _ alone _ store _ _ =>
    rw [store, TokenStore.flight?_openFlight alone]
    split
    · rename_i hk
      rw [hk, alone] at hreg
      cases hreg
    · exact .inl hreg
  | landed n key flight h o _ ready registered same store fetches _ =>
    rw [store, TokenStore.flight?_landed]
    split
    · rename_i hk
      rw [← hk] at registered
      obtain rfl : h = f.flight := Option.some.inj (registered.symm.trans hreg)
      -- The request that ends is the one of the registered flight, and it has its answer now.
      rw [same, hs.numbered ready, fetches] at hf
      rcases set_cases ready hf with ⟨-, rfl⟩ | ⟨hn, -⟩
      · cases hnone
      · exact absurd rfl hn
    · exact .inl hreg
  | detached clientId party store _ _ =>
    rw [store, TokenStore.flight?_detach]
    split
    · rename_i hk
      exact .inr (by rw [party, hk])
    · exact .inl hreg
  | forgotten _ _ _ _ store _ _ =>
    rw [store, TokenStore.flight?_forget]
    exact .inl hreg

theorem registered_or_removed (as : List Step) (hf : (run as start).fetches[i]? = some f) (hnone : f.answer = none) :
    (run as start).store.flight? f.key = some f.flight ∨
      ∃ bs cs, as = bs ++ .detach f.key.clientId :: cs ∧ (run bs start).store.flight? f.key = some f.flight := by
  -- From the right: the last step decides whether the request is new, still registered, or just removed.
  induction as using List.reverseRecOn with
  | nil => simp [run, start] at hf
  | append_singleton as a ih =>
    have hs : Sound (run as start) := sound_start.run as
    have hrun : run (as ++ [a]) start = (run as start).step a := run_append as [a] start
    rw [hrun] at hf ⊢
    cases hi : (run as start).fetches[i]? with
    | none =>
      obtain ⟨-, -, -, -, hreg⟩ := step_begins hi hf
      exact .inl hreg
    | some before =>
      obtain ⟨later, hl, hlater⟩ := step_later a hi
      obtain rfl : later = f := Option.some.inj (hl.symm.trans hf)
      obtain rfl := hlater.eq_of_unanswered hnone
      rcases ih hi with hreg | ⟨bs, cs, rfl, hreg⟩
      · rw [← hs.numbered hi] at hf
        rcases step_registered hs a hreg hf hnone with hstill | rfl
        · exact .inl hstill
        · exact .inr ⟨as, [], rfl, hreg⟩
      · exact .inr ⟨bs, cs ++ [a], by simp, hreg⟩

theorem removed_of_outstanding (as : List Step) (hij : i < j) (hf : (run as start).fetches[i]? = some f)
    (hg : (run as start).fetches[j]? = some g) (hkey : f.key = g.key) (hnone : f.answer = none) :
    ∃ bs cs, as = bs ++ .detach f.key.clientId :: cs ∧ (run bs start).store.flight? f.key = some f.flight ∧
      (run bs start).fetches.length ≤ j := by
  obtain ⟨ds, k, w, es, rfl, rfl, -, -, alone, -⟩ := run_begins as (Nat.zero_le _) hg
  rw [run_append] at hf
  obtain ⟨later, hl, hlater⟩ := run_later (.enter k :: es) (List.getElem?_eq_getElem hij)
  obtain rfl : later = f := Option.some.inj (hl.symm.trans hf)
  have hbefore : (run ds start).fetches[i]? = some later := by
    rw [← hlater.eq_of_unanswered hnone]
    exact List.getElem?_eq_getElem hij
  rcases registered_or_removed ds hbefore hnone with hreg | ⟨bs, cs, rfl, hreg⟩
  · rw [hkey, alone] at hreg
    cases hreg
  · refine ⟨bs, cs ++ .enter k :: es, by simp, hreg, ?_⟩
    rw [run_append]
    exact run_length _ _

end Traffic
end CredentialGateway.Token
