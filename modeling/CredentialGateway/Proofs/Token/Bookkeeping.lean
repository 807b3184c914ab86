import CredentialGateway.Proofs.Token.Traffic

/-! The bookkeeping of requests: each has its number for its generation, a flight is registered only for a request that
has no answer, and what a request has been answered is never lost. -/

namespace CredentialGateway.Token

structure Fetch.Later (f later : Fetch) : Prop where
  key : later.key = f.key
  flight : later.flight = f.flight
  answer {a : Answer} : f.answer = some a → later.answer = some a

theorem Fetch.Later.rfl {f : Fetch} : f.Later f := ⟨Eq.refl _, Eq.refl _, id⟩

theorem Fetch.Later.trans {f g h : Fetch} (hfg : f.Later g) (hgh : g.Later h) : f.Later h :=
  ⟨hgh.key.trans hfg.key, hgh.flight.trans hfg.flight, fun ha => hgh.answer (hfg.answer ha)⟩

namespace Traffic

theorem set_cases {l : List Fetch} {n i : Nat} {before after f : Fetch} (hn : l[n]? = some before)
    (h : (l.set n after)[i]? = some f) : n = i ∧ f = after ∨ n ≠ i ∧ l[i]? = some f := by
  rw [List.getElem?_set] at h
  split at h
  · rename_i hi
    rw [if_pos (List.getElem?_eq_some_iff.mp hn).1] at h
    exact .inl ⟨hi, (Option.some.inj h).symm⟩
  · rename_i hi
    exact .inr ⟨hi, h⟩

theorem later_set {l : List Fetch} {n i : Nat} {key : TokenKey} {flight : Flight} {a : Answer} {f : Fetch}
    (hn : l[n]? = some ⟨key, flight, none⟩) (h : l[i]? = some f) :
    ∃ later, (l.set n ⟨key, flight, some a⟩)[i]? = some later ∧ f.Later later := by
  by_cases hi : n = i
  · subst hi
    obtain rfl : ⟨key, flight, none⟩ = f := Option.some.inj (hn.symm.trans h)
    refine ⟨_, List.getElem?_set_self (List.getElem?_eq_some_iff.mp hn).1, ?_⟩
    exact ⟨rfl, rfl, fun ha => nomatch ha⟩
  · exact ⟨f, (List.getElem?_set_ne hi).trans h, .rfl⟩

theorem step_later {s : Traffic} (a : Step) {i : Nat} {f : Fetch} (h : s.fetches[i]? = some f) :
    ∃ later, (s.step a).fetches[i]? = some later ∧ f.Later later := by
  cases step_change s a with
  | none _ fetches _ | detached _ _ _ fetches _ | forgotten _ _ _ _ _ fetches _ =>
    rw [fetches]
    exact ⟨f, h, .rfl⟩
  | opened _ w _ _ _ _ _ fetches _ =>
    rw [fetches, List.getElem?_append_left (List.getElem?_eq_some_iff.mp h).1]
    exact ⟨f, h, .rfl⟩
  | landed _ _ _ _ _ _ ready _ _ _ fetches _ | stale _ _ _ _ _ ready _ _ fetches _ =>
    rw [fetches]
    exact later_set ready h

theorem run_later (as : List Step) {s : Traffic} {i : Nat} {f : Fetch} (h : s.fetches[i]? = some f) :
    ∃ later, (run as s).fetches[i]? = some later ∧ f.Later later := by
  induction as generalizing s f with
  | nil => exact ⟨f, h, .rfl⟩
  | cons a as ih =>
    obtain ⟨g, hg, hfg⟩ := step_later a h
    obtain ⟨later, hl, hgl⟩ := ih hg
    exact ⟨later, hl, hfg.trans hgl⟩

theorem fetch_complete {s : Traffic} {n : Nat} {key : TokenKey} {flight : Flight}
    (h : s.fetches[n]? = some ⟨key, flight, none⟩) (o : TokenOutcome) :
    (s.step (.complete n o)).fetches[n]? = some ⟨key, flight, some ⟨o, s.clock⟩⟩ := by
  simp only [step, complete, h]
  exact List.getElem?_set_self (List.getElem?_eq_some_iff.mp h).1

theorem step_length (s : Traffic) (a : Step) :
    s.fetches.length ≤ (s.step a).fetches.length ∧ (s.step a).fetches.length ≤ s.fetches.length + 1 := by
  cases step_change s a with
  | none _ fetches _ | detached _ _ _ fetches _ | forgotten _ _ _ _ _ fetches _ => simp [fetches]
  | opened _ w _ _ _ _ _ fetches _ => simp [fetches]
  | landed _ _ _ _ _ _ _ _ _ _ fetches _ | stale _ _ _ _ _ _ _ _ fetches _ => simp [fetches]

theorem run_length (as : List Step) (s : Traffic) : s.fetches.length ≤ (run as s).fetches.length :=
  run_keeps (P := fun t => s.fetches.length ≤ t.fetches.length) (fun t a h => Nat.le_trans h (step_length t a).1)
    (Nat.le_refl _) as

theorem step_clock (s : Traffic) (a : Step) : s.clock ≤ (s.step a).clock := by
  cases step_change s a with
  | none _ _ clock => exact clock
  | opened _ _ _ _ _ _ _ _ clock | landed _ _ _ _ _ _ _ _ _ _ _ clock | stale _ _ _ _ _ _ _ _ _ clock
  | detached _ _ _ _ clock | forgotten _ _ _ _ _ _ clock => exact Nat.le_of_eq clock.symm

structure Sound (s : Traffic) : Prop where
  opened : s.store.opened = s.fetches.length
  numbered {i : Nat} {f : Fetch} : s.fetches[i]? = some f → f.flight.generation = i
  flights {key : TokenKey} {f : Flight} : s.store.flight? key = some f →
    s.fetches[f.generation]? = some ⟨key, f, none⟩

theorem sound_start : Sound start :=
  ⟨rfl, fun h => by simp [start] at h, fun h => by simp [start, TokenStore.empty, TokenStore.flight?] at h⟩

namespace Sound
variable {s s' : Traffic}

theorem eq_of_generation (h : Sound s) {i : Nat} {f : Fetch} {key : TokenKey} {flight : Flight}
    (hf : s.fetches[i]? = some f) (hk : s.store.flight? key = some flight)
    (hg : flight.generation = f.flight.generation) : f = ⟨key, flight, none⟩ := by
  have hi := h.flights hk
  rw [hg, h.numbered hf, hf] at hi
  exact Option.some.inj hi

theorem of_opened (h : Sound s) {key : TokenKey} {secret : String} (alone : s.store.flight? key = none)
    (store : s'.store = s.store.openFlight key secret)
    (fetches : s'.fetches = s.fetches ++ [⟨key, ⟨s.store.opened, secret⟩, none⟩]) : Sound s' where
  opened := by simp [store, fetches, h.opened]
  numbered {i f} hf := by
    rw [fetches, List.getElem?_append] at hf
    split at hf
    · exact h.numbered hf
    · rw [List.getElem?_singleton] at hf
      split at hf
      · cases hf
        have := h.opened
        dsimp only
        omega
      · cases hf
  flights {other f} hf := by
    rw [store, TokenStore.flight?_openFlight alone] at hf
    rw [fetches]
    split at hf
    · rename_i hk
      subst hk
      cases hf
      simp [h.opened]
    · have hi := h.flights hf
      rwa [List.getElem?_append_left (List.getElem?_eq_some_iff.mp hi).1]

theorem of_answered (h : Sound s) {n : Nat} {key : TokenKey} {flight : Flight} {a : Answer}
    (ready : s.fetches[n]? = some ⟨key, flight, none⟩)
    (opened : s'.store.opened = s.store.opened)
    (fetches : s'.fetches = s.fetches.set n ⟨key, flight, some a⟩)
    (kept : ∀ {other f}, s'.store.flight? other = some f →
      s.store.flight? other = some f ∧ f.generation ≠ flight.generation) : Sound s' where
  opened := by simp [opened, fetches, h.opened]
  numbered {i f} hf := by
    rw [fetches] at hf
    rcases set_cases ready hf with ⟨rfl, rfl⟩ | ⟨-, hold⟩
    · exact h.numbered (f := ⟨key, flight, none⟩) ready
    · exact h.numbered hold
  flights {other f} hf := by
    obtain ⟨hold, hne⟩ := kept hf
    have hn : n ≠ f.generation := fun e => hne (e.symm.trans (h.numbered ready).symm)
    rw [fetches, List.getElem?_set_ne hn]
    exact h.flights hold

theorem step (h : Sound s) (a : Step) : Sound (s.step a) := by
  cases step_change s a with
  | none store fetches _ => exact ⟨by rw [store, fetches, h.opened], by rw [fetches]; exact h.numbered,
      by rw [store, fetches]; exact h.flights⟩
  | opened _ w _ _ alone _ store fetches _ => exact h.of_opened alone store fetches
  | landed n key flight f o _ ready registered same store fetches _ =>
    -- What stays registered belongs to another key, hence to another request.
    refine h.of_answered ready (by rw [store, TokenStore.opened_landed]) fetches fun {other g} hg => ?_
    rw [store, TokenStore.flight?_landed] at hg
    split at hg
    · cases hg
    · rename_i hk
      refine ⟨hg, fun hgen => hk ?_⟩
      exact (congrArg Fetch.key (h.eq_of_generation ready hg hgen)).symm
  | stale n key flight o _ ready unregistered store fetches _ =>
    refine h.of_answered ready (by rw [store]) fetches fun {other g} hg => ?_
    rw [store] at hg
    refine ⟨hg, fun hgen => ?_⟩
    obtain ⟨hk, -⟩ := Fetch.mk.inj (h.eq_of_generation ready hg hgen)
    exact unregistered g (hk ▸ hg) hgen
  | detached clientId _ store fetches _ =>
    refine ⟨by rw [store, fetches]; exact h.opened, by rw [fetches]; exact h.numbered, fun {key f} hf => ?_⟩
    rw [store, TokenStore.flight?_detach] at hf
    rw [fetches]
    split at hf
    · cases hf
    · exact h.flights hf
  | forgotten _ clientId _ _ store fetches _ =>
    exact ⟨by rw [store, fetches]; exact h.opened, by rw [fetches]; exact h.numbered,
      by rw [store, fetches]; exact h.flights⟩

theorem run (h : Sound s) (as : List Step) : Sound (Traffic.run as s) :=
  Traffic.run_keeps (fun _ a h => h.step a) h as

theorem run_keeps {P : Traffic → Prop} (hs : Sound s) (hstep : ∀ s a, Sound s → P s → P (s.step a)) (h : P s)
    (as : List Step) : P (Traffic.run as s) := by
  have hboth : Sound (Traffic.run as s) ∧ P (Traffic.run as s) :=
    Traffic.run_keeps (P := fun s => Sound s ∧ P s) (fun s a h => ⟨h.1.step a, hstep s a h.1 h.2⟩) ⟨hs, h⟩ as
  exact hboth.2

theorem fetchOf?_eq (h : Sound s) (generation : Nat) : s.fetchOf? generation = s.fetches[generation]? := by
  cases hf : s.fetches[generation]? with
  | none =>
    rw [fetchOf?, List.find?_eq_none]
    intro f hmem
    obtain ⟨i, hi⟩ := List.mem_iff_getElem?.mp hmem
    rw [h.numbered hi, beq_iff_eq]
    rintro rfl
    rw [hf] at hi
    cases hi
  | some f =>
    rw [fetchOf?, List.find?_eq_some_iff_getElem]
    obtain ⟨hlt, hget⟩ := List.getElem?_eq_some_iff.mp hf
    refine ⟨by simpa using h.numbered hf, generation, hlt, hget, fun j hj => ?_⟩
    have hne := h.numbered (List.getElem?_eq_getElem (Nat.lt_trans hj hlt))
    simp only [hne, Bool.not_eq_eq_eq_not, Bool.not_true, beq_eq_false_iff_ne, ne_eq]
    omega

end Sound
end Traffic
end CredentialGateway.Token
