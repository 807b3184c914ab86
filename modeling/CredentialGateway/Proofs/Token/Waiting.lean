import CredentialGateway.Proofs.Token.Bookkeeping

/-! Waiting for a flight: a caller that has boarded one stays with it, whatever happens to the store, and gets what it
brings. -/

namespace CredentialGateway.Token.Traffic

variable {s : Traffic}

def Holds (s : Traffic) (k generation : Nat) : Prop :=
  s.stage? k = some (.waiting generation) ∨
    ∃ f a, s.fetches[generation]? = some f ∧ f.answer = some a ∧ s.stage? k = some (.done (resultOf a.outcome))

theorem stage?_done {k : Nat} {r : Except TokenError String} (h : s.stage? k = some (.done r)) (a : Step) :
    (s.step a).stage? k = some (.done r) := by
  obtain ⟨c, hk, hc⟩ := Option.map_eq_some_iff.mp h
  obtain ⟨after, hafter, hadvance⟩ := step_caller hk a
  rw [stage?, hafter, Option.map_some]
  cases hadvance with
  | stays => rw [hc]
  | misses before | boards _ before _ | collects _ _ _ before _ _ => cases hc.symm.trans before
  | finds _ before _ => rcases before with before | before <;> cases hc.symm.trans before

theorem Holds.step {k generation : Nat} (h : Holds s k generation) (hs : Sound s) (a : Step) :
    Holds (s.step a) k generation := by
  rcases h with h | ⟨f, ans, hf, ha, h⟩
  · obtain ⟨c, hk, hc⟩ := Option.map_eq_some_iff.mp h
    obtain ⟨after, hafter, hadvance⟩ := step_caller hk a
    have hstage : (s.step a).stage? k = some after := by rw [stage?, hafter, Option.map_some]
    cases hadvance with
    | stays => exact .inl (hstage.trans (congrArg some hc))
    | misses before | boards _ before _ => cases hc.symm.trans before
    | finds _ before _ => rcases before with before | before <;> cases hc.symm.trans before
    | collects _ f ans before fetch answer =>
      cases hc.symm.trans before
      rw [hs.fetchOf?_eq] at fetch
      obtain ⟨later, hl, hlater⟩ := step_later a fetch
      exact .inr ⟨later, ans, hl, hlater.answer answer, hstage⟩
  · obtain ⟨later, hl, hlater⟩ := step_later a hf
    exact .inr ⟨later, ans, hl, hlater.answer ha, stage?_done h a⟩

theorem Holds.run {k generation : Nat} (h : Holds s k generation) (hs : Sound s) (as : List Step) :
    Holds (Traffic.run as s) k generation :=
  hs.run_keeps (P := fun s => Holds s k generation) (fun _ a hs h => h.step hs a) h as

theorem Holds.collect {k generation : Nat} (h : Holds s k generation) (hs : Sound s) {f : Fetch} {a : Answer}
    (hf : s.fetches[generation]? = some f) (ha : f.answer = some a) :
    (s.step (.collect k)).stage? k = some (.done (resultOf a.outcome)) := by
  rcases h with h | ⟨f', a', hf', ha', h⟩
  · obtain ⟨c, hk, hc⟩ := Option.map_eq_some_iff.mp h
    have hanswer : (s.fetchOf? generation).bind Fetch.answer = some a := by
      rw [hs.fetchOf?_eq, hf]
      exact ha
    have hcollect : s.step (.collect k) = s.moveTo k (.done (resultOf a.outcome)) := by
      simp only [Traffic.step, Traffic.collect, h, hanswer]
    rw [hcollect, stage?, getElem?_moveTo, hk]
    simp
  · obtain rfl : f = f' := Option.some.inj (hf.symm.trans hf')
    obtain rfl : a = a' := Option.some.inj (ha.symm.trans ha')
    exact stage?_done h _

theorem Holds.result {k fetch : Nat} (h : Holds s k fetch) (hs : Sound s) {key : TokenKey} {flight : Flight}
    (hf : s.fetches[fetch]? = some ⟨key, flight, none⟩) (o : TokenOutcome) (more : List Step) :
    (Traffic.run (.complete fetch o :: more ++ [.collect k]) s).stage? k = some (.done (resultOf o)) := by
  obtain ⟨later, hl, hlater⟩ := run_later more (fetch_complete hf o)
  have hholds := (h.step hs (.complete fetch o)).run (hs.step _) more
  rw [List.cons_append, Traffic.run, run_append]
  exact hholds.collect ((hs.step _).run more) hl (hlater.answer rfl)

end CredentialGateway.Token.Traffic
