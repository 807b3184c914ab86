import CredentialGateway.Proofs.Token.Freshness
import CredentialGateway.Proofs.Token.Waiting
import Mathlib.Data.List.Induction

/-! What a finished caller has got: a token from the store whose life had not ended when the caller looked, or what came
of the flight that it had boarded. Failures reach those who boarded their flight, and nobody else. -/

namespace CredentialGateway

/-- The life of a token that was answered at some time has not ended: it has no end, or one that the clock never reaches,
or one that is still to come. Five seconds are kept back. -/
def TokenAnswer.Lives (a : TokenAnswer) (since now : Nat) : Prop :=
  ∀ seconds, a.expiresIn = some seconds → since / 1000 + (seconds - 5) < CachedToken.horizon →
    now < since + 1000 * (seconds - 5)

theorem CachedToken.isValid_ofAnswer_iff (a : TokenAnswer) (since now : Nat) :
    (ofAnswer a since).isValid now = true ↔ a.Lives since now := by
  unfold ofAnswer isValid TokenAnswer.Lives
  cases he : a.expiresIn with
  | none => simp
  | some seconds =>
    simp only [Option.bind_some, endOf, Option.some.injEq, forall_eq']
    by_cases hfar : horizon ≤ since / 1000 + (seconds - margin)
    · rw [if_pos hfar]
      exact ⟨fun _ hnear => absurd hnear (Nat.not_lt.mpr hfar), fun _ => rfl⟩
    · rw [if_neg hfar]
      dsimp only
      rw [decide_eq_true_eq]
      exact ⟨fun h _ => h, fun h => h (Nat.not_le.mp hfar)⟩

namespace Token
namespace Traffic

variable {s : Traffic} {k i : Nat} {c : Caller} {key : TokenKey} {as : List Step}

def Granted (s : Traffic) (key : TokenKey) (t : CachedToken) : Prop :=
  ∃ (i : Nat) (f : Fetch) (a : TokenAnswer) (since : Nat), s.fetches[i]? = some f ∧ f.key = key ∧
    f.answer = some ⟨.ok a, since⟩ ∧ t = .ofAnswer a since

theorem run_split (before after : List Step) (a : Step) (s : Traffic) :
    run (before ++ a :: after) s = run after (run (before ++ [a]) s) := by
  rw [← run_append, List.append_assoc, List.singleton_append]

theorem Granted.step {t : CachedToken} (h : s.Granted key t) (a : Step) : (s.step a).Granted key t := by
  obtain ⟨i, f, answer, since, hf, hk, ha, ht⟩ := h
  obtain ⟨later, hl, hlater⟩ := step_later a hf
  exact ⟨i, later, answer, since, hl, hlater.key.trans hk, hlater.answer ha, ht⟩

theorem granted_run (as : List Step) {t : CachedToken} (h : (run as start).store.token? key = some t) :
    (run as start).Granted key t := by
  induction as using List.reverseRecOn with
  | nil => cases h
  | append_singleton as a ih =>
    rw [run_append] at h ⊢
    rcases step_token h with hold | ⟨fetch, flight, -, answer, -, -, -, rfl, hnew⟩
    · exact (ih hold).step a
    · exact ⟨fetch, _, answer, _, hnew, rfl, rfl, rfl⟩

/-- In the course of a run a caller finds a token in the store that was granted for its key before, and whose life has
not ended at that moment. -/
def Found (as : List Step) (k : Nat) (key : TokenKey) (token : String) : Prop :=
  ∃ before check after, as = before ++ check :: after ∧ (check = .look k ∨ check = .enter k) ∧
    ∃ (i : Nat) (f : Fetch) (a : TokenAnswer) (since : Nat), (run before start).fetches[i]? = some f ∧ f.key = key ∧
      f.answer = some ⟨.ok a, since⟩ ∧ a.Lives since (run before start).clock ∧ token = a.accessToken

/-- In the course of a run a caller that has found no token boards a flight, which it has opened or which it joins. -/
def Boarded (as : List Step) (k generation : Nat) : Prop :=
  ∃ before after, as = before ++ .enter k :: after ∧ (run before start).stage? k = some .missed ∧
    (run (before ++ [.enter k]) start).stage? k = some (.waiting generation)

theorem Found.append {token : String} (h : Found as k key token) (a : Step) : Found (as ++ [a]) k key token := by
  obtain ⟨before, check, after, rfl, hfound⟩ := h
  exact ⟨before, check, after ++ [a], by simp, hfound⟩

theorem Boarded.append (h : Boarded as k i) (a : Step) : Boarded (as ++ [a]) k i := by
  obtain ⟨before, after, rfl, hboarded⟩ := h
  exact ⟨before, after ++ [a], by simp, hboarded⟩

theorem step_party {a : Step} (h : s.callers[k]? = some c) (hmoved : (s.step a).callers[k]? ≠ some c) :
    (a = .look k ∧ c.stage = .begun) ∨ (a = .enter k ∧ c.stage = .missed) ∨
      (a = .collect k ∧ ∃ generation, c.stage = .waiting generation) := by
  -- A step moves at most the caller that it names.
  have hself {t : Traffic} {caller : Nat} {stage : Stage} (ht : t.callers = s.callers)
      (hmoved : (t.moveTo caller stage).callers[k]? ≠ some c) : caller = k := by
    by_contra hne
    rw [getElem?_moveTo, ht, h, Option.map_some, if_neg hne] at hmoved
    exact hmoved rfl
  cases a with
  | call w => exact absurd ((List.getElem?_append_left (List.getElem?_eq_some_iff.mp h).1).trans h) hmoved
  | look caller =>
    simp only [step, look] at hmoved
    split at hmoved
    · rename_i w hw
      obtain rfl : caller = k := by split at hmoved <;> exact hself rfl hmoved
      obtain rfl := Option.some.inj (h.symm.trans hw)
      exact .inl ⟨rfl, rfl⟩
    · exact absurd h hmoved
  | enter caller =>
    simp only [step, enter] at hmoved
    split at hmoved
    · rename_i w hw
      obtain rfl : caller = k := by split at hmoved <;> exact hself rfl hmoved
      obtain rfl := Option.some.inj (h.symm.trans hw)
      exact .inr (.inl ⟨rfl, rfl⟩)
    · exact absurd h hmoved
  | complete fetch o =>
    simp only [step, complete] at hmoved
    split at hmoved <;> exact absurd h hmoved
  | collect caller =>
    simp only [step, collect] at hmoved
    split at hmoved
    · rename_i generation hw
      split at hmoved
      · obtain rfl := hself rfl hmoved
        rw [stage?, h] at hw
        exact .inr (.inr ⟨rfl, generation, Option.some.inj hw⟩)
      · exact absurd h hmoved
    · exact absurd h hmoved
  | detach clientId => exact absurd h hmoved
  | forget invalidation =>
    simp only [step, forget] at hmoved
    split at hmoved <;> exact absurd h hmoved
  | advance millis => exact absurd h hmoved

theorem found_of_cached? {before : List Step} {check : Step} {token : String} (hcheck : check = .look k ∨ check = .enter k)
    (hcached : (run before start).store.cached? (run before start).clock key = some token) :
    Found (before ++ [check]) k key token := by
  obtain ⟨t, ht, hvalid, rfl⟩ := TokenStore.token?_eq_some_of_cached? hcached
  obtain ⟨i, f, a, since, hf, hk, ha, rfl⟩ := granted_run before ht
  exact ⟨before, check, [], rfl, hcheck, i, f, a, since, hf, hk, ha,
    (CachedToken.isValid_ofAnswer_iff a since _).mp hvalid, rfl⟩

end Traffic

def Caller.Brought (as : List Step) (k : Nat) (c : Caller) : Prop :=
  match c.stage with
  | .begun | .missed => True
  | .waiting generation => Traffic.Boarded as k generation
  | .done r =>
    (∃ token, r = .ok token ∧ Traffic.Found as k c.wish.key token) ∨ ∃ generation, Traffic.Boarded as k generation

theorem Caller.Brought.append {as : List Step} {k : Nat} {c : Caller} (h : c.Brought as k) (a : Step) : c.Brought (as ++ [a]) k := by
  unfold Brought at h ⊢
  split
  · trivial
  · trivial
  · rename_i generation hs
    simp only [hs] at h
    exact h.append a
  · rename_i r hs
    simp only [hs] at h
    rcases h with ⟨token, hr, hfound⟩ | ⟨generation, hboarded⟩
    · exact .inl ⟨token, hr, hfound.append a⟩
    · exact .inr ⟨generation, hboarded.append a⟩

namespace Traffic

variable {s : Traffic} {k i : Nat} {c : Caller} {as : List Step}

theorem brought_run (as : List Step) (h : (run as start).callers[k]? = some c) : c.Brought as k := by
  induction as using List.reverseRecOn generalizing c with
  | nil => simp [run, start] at h
  | append_singleton as a ih =>
    have hrun : run (as ++ [a]) start = (run as start).step a := run_append as [a] start
    rw [hrun] at h
    cases hold : (run as start).callers[k]? with
    | none => simp [Caller.Brought, step_newcomer h hold]
    | some before =>
      by_cases hmoved : (((run as start).step a).callers[k]? = some before)
      · obtain rfl := Option.some.inj (hmoved.symm.trans h)
        exact (ih hold).append a
      -- The caller has moved: which step that was decides where it can be now.
      · obtain ⟨stage, hstage, hadvance⟩ := step_caller hold a
        obtain rfl := Option.some.inj (hstage.symm.trans h)
        have hparty := step_party hold hmoved
        cases hadvance with
        | stays => exact absurd h hmoved
        | misses _ => trivial
        | finds token hbefore cached =>
          refine .inl ⟨token, rfl, found_of_cached? ?_ cached⟩
          rcases hparty with ⟨hlook, -⟩ | ⟨henter, -⟩ | ⟨-, generation, hwaits⟩
          · exact .inl hlook
          · exact .inr henter
          · rcases hbefore with hbefore | hbefore <;> cases hbefore.symm.trans hwaits
        | boards f hbefore flight =>
          rcases hparty with ⟨-, hbegun⟩ | ⟨rfl, -⟩ | ⟨-, generation, hwaits⟩
          · cases hbefore.symm.trans hbegun
          · refine ⟨as, [], rfl, ?_, ?_⟩
            · rw [stage?, hold, Option.map_some, hbefore]
            · rw [hrun, stage?, h, Option.map_some]
          · cases hbefore.symm.trans hwaits
        | collects generation f ans hwaits _ _ =>
          have hboarded := ih hold
          simp only [Caller.Brought, hwaits] at hboarded
          exact .inr ⟨generation, hboarded.append a⟩

theorem boards_unanswered {before : List Step} (hmissed : (run before start).stage? k = some .missed)
    (hwaits : (run (before ++ [.enter k]) start).stage? k = some (.waiting i)) :
    ∃ w flight, (run before start).callers[k]? = some ⟨w, .missed⟩ ∧
      (run (before ++ [.enter k]) start).fetches[i]? = some ⟨w.key, flight, none⟩ := by
  have hs : Sound (run before start) := sound_start.run before
  obtain ⟨⟨w, stage⟩, hc, rfl⟩ := Option.map_eq_some_iff.mp hmissed
  have hrun : run (before ++ [.enter k]) start = (run before start).step (.enter k) := run_append before [.enter k] start
  rw [hrun] at hwaits ⊢
  obtain ⟨after, hafter, hadvance⟩ := step_caller hc (.enter k)
  obtain rfl : after = .waiting i := by
    rw [stage?, hafter] at hwaits
    exact Option.some.inj hwaits
  generalize hstage : Stage.waiting i = stage at hadvance
  cases hadvance with
  | stays | misses _ | finds _ _ _ | collects _ _ _ _ _ _ => cases hstage
  | boards f _ flight =>
    obtain rfl := Stage.waiting.inj hstage
    exact ⟨w, f, hc, (hs.step _).flights flight⟩

theorem caller_run (h : s.callers[k]? = some c) (as : List Step) : ∃ later, (run as s).callers[k]? = some later := by
  induction as generalizing s c with
  | nil => exact ⟨c, h⟩
  | cons a as ih =>
    obtain ⟨after, hafter, -⟩ := step_caller h a
    exact ih hafter

theorem Boarded.holds (h : Boarded as k i) : Holds (run as start) k i := by
  obtain ⟨before, after, rfl, -, hwaits⟩ := h
  rw [run_split]
  exact Holds.run (.inl hwaits) (sound_start.run _) after

theorem Boarded.result {r : Except TokenError String} (h : Boarded as k i)
    (hdone : (run as start).stage? k = some (.done r)) :
    ∃ f a, (run as start).fetches[i]? = some f ∧ f.answer = some a ∧ r = resultOf a.outcome := by
  rcases h.holds with hwaits | ⟨f, a, hf, ha, hresult⟩
  · cases hwaits.symm.trans hdone
  · exact ⟨f, a, hf, ha, Stage.done.inj (Option.some.inj (hdone.symm.trans hresult))⟩

theorem Boarded.key (h : Boarded as k i) (hc : (run as start).callers[k]? = some c) :
    ∃ f, (run as start).fetches[i]? = some f ∧ f.key = c.wish.key := by
  obtain ⟨before, after, rfl, hmissed, hwaits⟩ := h
  obtain ⟨w, flight, hbefore, hf⟩ := boards_unanswered hmissed hwaits
  obtain rfl : c.wish = w := by
    rw [run_append] at hc
    exact wish_run hbefore _ hc
  rw [run_split]
  obtain ⟨later, hl, hlater⟩ := run_later after hf
  exact ⟨later, hl, hlater.key⟩

theorem not_missed_of_waits {before : List Step}
    (hwaits : (run (before ++ [.enter k]) start).stage? k = some (.waiting i)) (gap : List Step) :
    (run (before ++ .enter k :: gap) start).stage? k ≠ some .missed := by
  rw [run_split]
  rcases Holds.run (.inl hwaits) (sound_start.run _) gap with h | ⟨_, _, -, -, h⟩ <;> simp [h]

theorem eq_of_boards_again {before gap rest rest' : List Step} {j : Nat}
    (hwaits : (run (before ++ [.enter k]) start).stage? k = some (.waiting i))
    (hmissed : (run (before ++ gap) start).stage? k = some .missed)
    (hagain : (run (before ++ gap ++ [.enter k]) start).stage? k = some (.waiting j))
    (hgap : .enter k :: rest = gap ++ .enter k :: rest') : i = j := by
  cases gap with
  | nil =>
    rw [List.append_nil] at hagain
    exact Stage.waiting.inj (Option.some.inj (hwaits.symm.trans hagain))
  | cons x gap =>
    obtain ⟨rfl, -⟩ := List.cons.inj hgap
    exact absurd hmissed (not_missed_of_waits hwaits gap)

theorem Boarded.unique {j : Nat} (hi : Boarded as k i) (hj : Boarded as k j) : i = j := by
  obtain ⟨b, rest, rfl, hmissed, hwaits⟩ := hi
  obtain ⟨b', rest', hsplit, hmissed', hwaits'⟩ := hj
  -- One of the two boardings comes first, and it bars the other unless both are the same.
  rcases List.append_eq_append_iff.mp hsplit with ⟨gap, rfl, hgap⟩ | ⟨gap, rfl, hgap⟩
  · exact eq_of_boards_again hwaits hmissed' hwaits' hgap
  · exact (eq_of_boards_again hwaits' hmissed hwaits hgap).symm

theorem not_boarded_of_answered {before after : List Step} {w : Wish} {f : Fetch} {a : Answer}
    (hf : (run before start).fetches[i]? = some f) (ha : f.answer = some a) :
    ¬ Boarded (before ++ .call w :: after) (run before start).callers.length i := by
  rintro ⟨b, rest, hsplit, hmissed, hwaits⟩
  obtain ⟨w', flight, hcaller, hfetch⟩ := boards_unanswered hmissed hwaits
  rcases List.append_eq_append_iff.mp hsplit with ⟨gap, rfl, -⟩ | ⟨gap, rfl, -⟩
  · rw [List.append_assoc, run_append] at hfetch
    obtain ⟨later, hl, hlater⟩ := run_later (gap ++ [.enter (run before start).callers.length]) hf
    obtain rfl := Option.some.inj (hl.symm.trans hfetch)
    cases hlater.answer ha
  -- A caller that has come cannot have the number of one that is still to come.
  · obtain ⟨later, hl⟩ := caller_run hcaller gap
    rw [← run_append] at hl
    exact absurd (List.getElem?_eq_some_iff.mp hl).1 (Nat.lt_irrefl _)

/-- Whoever is done has found a token that was granted for its key and had not come to the end of its life, or else has
boarded one flight of its key and got exactly what came of it, as all did who boarded that flight. Only tokens that were
granted are ever stored, and nobody who comes after a flight has ended gets what came of it. -/
theorem callers_answered (past : List Step) :
    let s := run past start
    (∀ k c r, s.callers[k]? = some c → c.stage = .done r →
      (∃ token, r = .ok token ∧ Found past k c.wish.key token) ∨
        ∃ i f a, Boarded past k i ∧ (∀ j, Boarded past k j → j = i) ∧ s.fetches[i]? = some f ∧ f.key = c.wish.key ∧
          f.answer = some a ∧ r = resultOf a.outcome) ∧
    (∀ k k' i r r', Boarded past k i → Boarded past k' i → s.stage? k = some (.done r) →
      s.stage? k' = some (.done r') → r = r') ∧
    (∀ key t, s.store.token? key = some t → s.Granted key t) ∧
    ∀ before w after i f a, past = before ++ .call w :: after → (run before start).fetches[i]? = some f →
      f.answer = some a → ¬ Boarded past (run before start).callers.length i := by
  intro s
  refine ⟨fun k c r hc hr => ?_, fun k k' i r r' hk hk' hr hr' => ?_, fun key t ht => granted_run past ht, ?_⟩
  · have hbrought := brought_run past hc
    simp only [Caller.Brought, hr] at hbrought
    refine hbrought.imp id fun ⟨i, hboarded⟩ => ?_
    have hdone : s.stage? k = some (.done r) := by rw [stage?, hc, Option.map_some, hr]
    -- The request that was answered and the one of this key are the same: both are the `i`-th.
    obtain ⟨f, a, hf, ha, hresult⟩ := hboarded.result hdone
    obtain ⟨g, hg, hkey⟩ := hboarded.key hc
    obtain rfl := Option.some.inj (hf.symm.trans hg)
    exact ⟨i, f, a, hboarded, fun j hj => hj.unique hboarded, hf, hkey, ha, hresult⟩
  · obtain ⟨f, a, hf, ha, rfl⟩ := hk.result hr
    obtain ⟨f', a', hf', ha', rfl⟩ := hk'.result hr'
    obtain rfl := Option.some.inj (hf.symm.trans hf')
    rw [Option.some.inj (ha.symm.trans ha')]
  · rintro before w after i f a rfl hf ha
    exact not_boarded_of_answered hf ha

def sharedFailure : List Step :=
  let w : Wish := ⟨⟨"client", "https://issuer.test/token"⟩, "secret"⟩
  [.call w, .call w, .look 0, .look 1, .enter 0, .enter 1, .complete 0 (.error (.malformed w.key.tokenUrl "empty")),
    .collect 0, .collect 1, .call w, .look 2, .enter 2, .complete 1 (.ok ⟨"new", none, some 8⟩), .collect 2,
    .advance 2999, .call w, .look 3, .advance 1, .call w, .look 4]

/-- The failure reaches both who share it and not the caller after them, whose token is found until its life ends. -/
theorem callers_answered_in_turn :
    (run sharedFailure start).stage? 0 = some (.done (.error (.malformed "https://issuer.test/token" "empty"))) ∧
      (run sharedFailure start).stage? 1 = (run sharedFailure start).stage? 0 ∧ ¬ Boarded sharedFailure 2 0 ∧
      (run sharedFailure start).Granted ⟨"client", "https://issuer.test/token"⟩ ⟨"new", some 3000⟩ ∧
      (run sharedFailure start).stage? 3 = some (.done (.ok "new")) ∧
      (run sharedFailure start).stage? 4 = some .missed := by
  obtain ⟨-, hshared, hgranted, hlate⟩ := callers_answered sharedFailure
  have hfirst : Boarded sharedFailure 0 0 := ⟨sharedFailure.take 4, _, rfl, rfl, rfl⟩
  have hsecond : Boarded sharedFailure 1 0 := ⟨sharedFailure.take 5, _, rfl, rfl, rfl⟩
  obtain ⟨r, hr⟩ : ∃ r, (run sharedFailure start).stage? 1 = some (.done r) := ⟨_, rfl⟩
  have hdone : (run sharedFailure start).stage? 0 =
      some (.done (.error (.malformed "https://issuer.test/token" "empty"))) := rfl
  refine ⟨hdone, ?_, hlate (sharedFailure.take 9) _ _ 0 _ _ rfl rfl rfl, hgranted _ _ rfl, rfl, rfl⟩
  rw [hr, hdone, hshared 1 0 0 r _ hsecond hfirst hr hdone]

end Traffic
end Token
end CredentialGateway
