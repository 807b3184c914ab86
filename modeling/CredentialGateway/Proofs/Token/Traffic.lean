import CredentialGateway.Proofs.Token.Store
import CredentialGateway.Token.Traffic

/-! What a step of the traffic can change, and the bookkeeping that every run keeps: requests are numbered by their
generations, and a flight is registered only while its request has no answer. -/

namespace CredentialGateway.Token.Traffic

theorem run_append (as bs : List Step) (s : Traffic) : run (as ++ bs) s = run bs (run as s) := by
  induction as generalizing s with
  | nil => rfl
  | cons a as ih => simpa only [List.cons_append, run] using ih (s.step a)

theorem run_keeps {P : Traffic → Prop} (hstep : ∀ s a, P s → P (s.step a)) {s : Traffic} (h : P s) (as : List Step) :
    P (run as s) := by
  induction as generalizing s with
  | nil => exact h
  | cons a as ih => exact ih (hstep s a h)

theorem getElem?_moveTo (s : Traffic) (k : Nat) (stage : Stage) (j : Nat) :
    (s.moveTo k stage).callers[j]? =
      (s.callers[j]?).map fun c => if k = j then { c with stage } else c := by
  simp only [moveTo, List.getElem?_modify]
  rfl

inductive Change (s : Traffic) (a : Step) (s' : Traffic) : Prop
  | none (store : s'.store = s.store) (fetches : s'.fetches = s.fetches) (clock : s.clock ≤ s'.clock)
  | opened (caller : Nat) (w : Wish) (party : a = .enter caller)
      (ready : s.callers[caller]? = some ⟨w, .missed⟩)
      (alone : s.store.flight? w.key = Option.none)
      (uncached : s.store.cached? s.clock w.key = Option.none)
      (store : s'.store = s.store.openFlight w.key w.clientSecret)
      (fetches : s'.fetches = s.fetches ++ [⟨w.key, ⟨s.store.opened, w.clientSecret⟩, Option.none⟩])
      (clock : s'.clock = s.clock)
  | landed (fetch : Nat) (key : TokenKey) (flight f : Flight) (o : TokenOutcome) (party : a = .complete fetch o)
      (ready : s.fetches[fetch]? = some ⟨key, flight, Option.none⟩)
      (registered : s.store.flight? key = some f) (same : f.generation = flight.generation)
      (store : s'.store = s.store.landed s.clock key o)
      (fetches : s'.fetches = s.fetches.set fetch ⟨key, flight, some ⟨o, s.clock⟩⟩)
      (clock : s'.clock = s.clock)
  | stale (fetch : Nat) (key : TokenKey) (flight : Flight) (o : TokenOutcome) (party : a = .complete fetch o)
      (ready : s.fetches[fetch]? = some ⟨key, flight, Option.none⟩)
      (unregistered : ∀ f, s.store.flight? key = some f → f.generation ≠ flight.generation)
      (store : s'.store = s.store)
      (fetches : s'.fetches = s.fetches.set fetch ⟨key, flight, some ⟨o, s.clock⟩⟩)
      (clock : s'.clock = s.clock)
  | detached (clientId : String) (party : a = .detach clientId)
      (store : s'.store = s.store.detach clientId) (fetches : s'.fetches = s.fetches) (clock : s'.clock = s.clock)
  | forgotten (invalidation : Nat) (clientId : String) (party : a = .forget invalidation)
      (ready : s.invalidations[invalidation]? = some ⟨clientId, false⟩)
      (store : s'.store = s.store.forget clientId) (fetches : s'.fetches = s.fetches) (clock : s'.clock = s.clock)

theorem change_enter (s : Traffic) (caller : Nat) : Change s (.enter caller) (s.enter caller) := by
  unfold enter
  split
  · rename_i w hw
    unfold TokenStore.enter
    cases hf : s.store.flight? w.key with
    | some f => exact .none rfl rfl (Nat.le_refl _)
    | none =>
      cases hc : s.store.cached? s.clock w.key with
      | some token => exact .none rfl rfl (Nat.le_refl _)
      | none => exact .opened caller w rfl hw hf hc rfl rfl rfl
  · exact .none rfl rfl (Nat.le_refl _)

theorem change_complete (s : Traffic) (fetch : Nat) (o : TokenOutcome) :
    Change s (.complete fetch o) (s.complete fetch o) := by
  unfold complete
  split
  · rename_i key flight hf
    by_cases h : ∃ f, s.store.flight? key = some f ∧ f.generation = flight.generation
    · obtain ⟨f, hreg, hsame⟩ := h
      have hstore := TokenStore.complete_eq_landed hreg s.clock o
      rw [hsame] at hstore
      exact .landed fetch key flight f o rfl hf hreg hsame hstore rfl rfl
    · have hun : ∀ f, s.store.flight? key = some f → f.generation ≠ flight.generation :=
        fun f hreg hsame => h ⟨f, hreg, hsame⟩
      exact .stale fetch key flight o rfl hf hun (TokenStore.complete_eq_self hun s.clock o) rfl rfl
  · exact .none rfl rfl (Nat.le_refl _)

theorem step_change (s : Traffic) (a : Step) : Change s a (s.step a) := by
  cases a with
  | call w => exact .none rfl rfl (Nat.le_refl _)
  | look caller =>
    simp only [step, look]
    split
    · split <;> exact .none rfl rfl (Nat.le_refl _)
    · exact .none rfl rfl (Nat.le_refl _)
  | enter caller => exact change_enter s caller
  | complete fetch o => exact change_complete s fetch o
  | collect caller =>
    simp only [step, collect]
    split
    · split <;> exact .none rfl rfl (Nat.le_refl _)
    · exact .none rfl rfl (Nat.le_refl _)
  | detach clientId => exact .detached clientId rfl rfl rfl rfl
  | forget invalidation =>
    simp only [step, forget]
    split
    · rename_i clientId hi
      exact .forgotten invalidation clientId rfl hi rfl rfl rfl
    · exact .none rfl rfl (Nat.le_refl _)
  | advance millis => exact .none rfl rfl (Nat.le_add_right _ _)

theorem step_invalidations (s : Traffic) (a : Step) :
    (∃ c, a = .detach c ∧ (s.step a).invalidations = s.invalidations ++ [⟨c, false⟩]) ∨
      (∃ i c, s.invalidations[i]? = some ⟨c, false⟩ ∧
        (s.step a).invalidations = s.invalidations.set i ⟨c, true⟩ ∧ (s.step a).store = s.store.forget c) ∨
      (s.step a).invalidations = s.invalidations := by
  cases a with
  | call w => exact .inr (.inr rfl)
  | look caller =>
    simp only [step, look]
    split
    · split <;> exact .inr (.inr rfl)
    · exact .inr (.inr rfl)
  | enter caller =>
    simp only [step, enter]
    split
    · split <;> exact .inr (.inr rfl)
    · exact .inr (.inr rfl)
  | complete fetch o =>
    simp only [step, complete]
    split <;> exact .inr (.inr rfl)
  | collect caller =>
    simp only [step, collect]
    split
    · split <;> exact .inr (.inr rfl)
    · exact .inr (.inr rfl)
  | detach c => exact .inl ⟨c, rfl, rfl⟩
  | forget i =>
    simp only [step, forget]
    split
    · rename_i c hi
      exact .inr (.inl ⟨i, c, hi, rfl, rfl⟩)
    · exact .inr (.inr rfl)
  | advance millis => exact .inr (.inr rfl)

inductive Advance (s s' : Traffic) (c : Caller) : Stage → Prop
  | stays : Advance s s' c c.stage
  | misses (before : c.stage = .begun) : Advance s s' c .missed
  | finds (token : String) (before : c.stage = .begun ∨ c.stage = .missed)
      (cached : s.store.cached? s.clock c.wish.key = some token) : Advance s s' c (.done (.ok token))
  | boards (f : Flight) (before : c.stage = .missed) (flight : s'.store.flight? c.wish.key = some f) :
      Advance s s' c (.waiting f.generation)
  | collects (generation : Nat) (f : Fetch) (a : Answer) (before : c.stage = .waiting generation)
      (fetch : s.fetchOf? generation = some f) (answer : f.answer = some a) :
      Advance s s' c (.done (resultOf a.outcome))

variable {s : Traffic} {k : Nat} {c : Caller}

theorem moveTo_caller {t s' : Traffic} (hs : t.callers = s.callers) (h : s.callers[k]? = some c) {caller : Nat}
    {stage : Stage} (hm : k = caller → Advance s s' c stage) :
    ∃ after, (t.moveTo caller stage).callers[k]? = some ⟨c.wish, after⟩ ∧ Advance s s' c after := by
  rw [getElem?_moveTo, hs, h]
  by_cases hk : caller = k
  · exact ⟨stage, by rw [Option.map_some, if_pos hk], hm hk.symm⟩
  · exact ⟨c.stage, by rw [Option.map_some, if_neg hk], .stays⟩

theorem look_caller {s' : Traffic} (h : s.callers[k]? = some c) (caller : Nat) :
    ∃ after, (s.look caller).callers[k]? = some ⟨c.wish, after⟩ ∧ Advance s s' c after := by
  unfold look
  split
  · rename_i w hw
    split
    · rename_i token hc
      refine moveTo_caller rfl h fun hk => ?_
      obtain rfl : c = ⟨w, .begun⟩ := Option.some.inj (h.symm.trans (hk ▸ hw))
      exact .finds token (.inl rfl) hc
    · refine moveTo_caller rfl h fun hk => ?_
      obtain rfl : c = ⟨w, .begun⟩ := Option.some.inj (h.symm.trans (hk ▸ hw))
      exact .misses rfl
  · exact ⟨c.stage, h, .stays⟩

theorem enter_caller (h : s.callers[k]? = some c) (caller : Nat) :
    ∃ after, (s.enter caller).callers[k]? = some ⟨c.wish, after⟩ ∧ Advance s (s.enter caller) c after := by
  unfold enter
  split
  · rename_i w hw
    have hcaller : k = caller → c = ⟨w, .missed⟩ := fun hk => Option.some.inj (h.symm.trans (hk ▸ hw))
    unfold TokenStore.enter
    cases hf : s.store.flight? w.key with
    | some f =>
      refine moveTo_caller rfl h fun hk => ?_
      obtain rfl := hcaller hk
      exact .boards f rfl hf
    | none =>
      cases hc : s.store.cached? s.clock w.key with
      | some token =>
        refine moveTo_caller rfl h fun hk => ?_
        obtain rfl := hcaller hk
        exact .finds token (.inr rfl) hc
      | none =>
        refine moveTo_caller rfl h fun hk => ?_
        obtain rfl := hcaller hk
        exact .boards ⟨s.store.opened, w.clientSecret⟩ rfl
          ((TokenStore.flight?_openFlight hf _ _).trans (if_pos rfl))
  · exact ⟨c.stage, h, .stays⟩

theorem collect_caller {s' : Traffic} (h : s.callers[k]? = some c) (caller : Nat) :
    ∃ after, (s.collect caller).callers[k]? = some ⟨c.wish, after⟩ ∧ Advance s s' c after := by
  unfold collect
  split
  · rename_i generation hw
    split
    · rename_i a ha
      obtain ⟨f, hf, ha⟩ := Option.bind_eq_some_iff.mp ha
      refine moveTo_caller rfl h fun hk => ?_
      have hstage : c.stage = .waiting generation := by
        rw [← hk, stage?, h] at hw
        exact Option.some.inj hw
      exact .collects generation f a hstage hf ha
    · exact ⟨c.stage, h, .stays⟩
  · exact ⟨c.stage, h, .stays⟩

theorem step_caller (h : s.callers[k]? = some c) (a : Step) :
    ∃ after, (s.step a).callers[k]? = some ⟨c.wish, after⟩ ∧ Advance s (s.step a) c after := by
  cases a with
  | call w => exact ⟨c.stage, (List.getElem?_append_left (List.getElem?_eq_some_iff.mp h).1).trans h, .stays⟩
  | look caller => exact look_caller h caller
  | enter caller => exact enter_caller h caller
  | complete fetch o =>
    simp only [step, complete]
    split <;> exact ⟨c.stage, h, .stays⟩
  | collect caller => exact collect_caller h caller
  | detach clientId => exact ⟨c.stage, h, .stays⟩
  | forget invalidation =>
    simp only [step, forget]
    split <;> exact ⟨c.stage, h, .stays⟩
  | advance millis => exact ⟨c.stage, h, .stays⟩

theorem wish_run {later : Caller} (h : s.callers[k]? = some c) (as : List Step)
    (hl : (run as s).callers[k]? = some later) : later.wish = c.wish := by
  induction as generalizing s c with
  | nil => rw [Option.some.inj (h.symm.trans hl)]
  | cons a as ih =>
    obtain ⟨after, hafter, -⟩ := step_caller h a
    have hwish := ih hafter hl
    exact hwish

theorem length_moveTo (s : Traffic) (caller : Nat) (stage : Stage) :
    (s.moveTo caller stage).callers.length = s.callers.length := List.length_modify ..

theorem step_newcomer {a : Step} (h : (s.step a).callers[k]? = some c) (hk : s.callers[k]? = none) :
    c.stage = .begun := by
  -- The number of callers tells: no other step than a call adds one.
  have hlength := List.getElem?_eq_none_iff.mp hk
  have hlt := (List.getElem?_eq_some_iff.mp h).1
  cases a with
  | call w =>
    simp only [step, List.length_append, List.length_singleton] at hlt
    obtain rfl : k = s.callers.length := by omega
    obtain rfl : ⟨w, .begun⟩ = c := Option.some.inj (List.getElem?_concat_length.symm.trans h)
    rfl
  | look caller =>
    simp only [step, look] at hlt
    split at hlt
    · split at hlt <;> (rw [length_moveTo] at hlt; omega)
    · omega
  | enter caller =>
    simp only [step, enter] at hlt
    split at hlt
    · split at hlt <;> (rw [length_moveTo] at hlt; dsimp only at hlt; omega)
    · omega
  | complete fetch o =>
    simp only [step, complete] at hlt
    split at hlt <;> exact absurd hlt (Nat.not_lt.mpr hlength)
  | collect caller =>
    simp only [step, collect] at hlt
    split at hlt
    · split at hlt
      · rw [length_moveTo] at hlt
        omega
      · omega
    · omega
  | detach clientId =>
    simp only [step, detach] at hlt
    omega
  | forget invalidation =>
    simp only [step, forget] at hlt
    split at hlt <;> exact absurd hlt (Nat.not_lt.mpr hlength)
  | advance millis =>
    simp only [step] at hlt
    omega

end CredentialGateway.Token.Traffic
