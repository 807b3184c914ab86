import CredentialGateway.Proofs.Token.Outstanding

/-! A request serves its key from its begin until it fails or its token expires. Without an invalidation, no other begins
in the meantime. -/

namespace CredentialGateway.Token

def Fetch.Spent (f : Fetch) (now : Nat) : Prop :=
  ∃ a, f.answer = some a ∧ ∀ answer, a.outcome = .ok answer → (CachedToken.ofAnswer answer a.time).isValid now = false

theorem Fetch.Spent.mono {f : Fetch} {now later : Nat} (h : f.Spent now) (hle : now ≤ later) : f.Spent later := by
  obtain ⟨a, ha, hinvalid⟩ := h
  refine ⟨a, ha, fun answer hok => ?_⟩
  have hnow := hinvalid answer hok
  cases hlater : (CachedToken.ofAnswer answer a.time).isValid later with
  | false => rfl
  | true =>
    rw [CachedToken.isValid_of_le hle hlater] at hnow
    cases hnow

theorem Fetch.Spent.later {f g : Fetch} {now : Nat} (h : f.Spent now) (hg : f.Later g) : g.Spent now := by
  obtain ⟨a, ha, hinvalid⟩ := h
  exact ⟨a, hg.answer ha, hinvalid⟩

namespace Traffic

variable {s : Traffic} {i j : Nat} {f g : Fetch}

def Quiet (c : String) (s : Traffic) : Prop := ⟨c, false⟩ ∉ s.invalidations

theorem Quiet.step {c : String} (h : Quiet c s) {a : Step} (ha : a ≠ .detach c) : Quiet c (s.step a) := by
  unfold Quiet
  rcases step_invalidations s a with ⟨d, rfl, hnew⟩ | ⟨n, d, -, hset, -⟩ | hsame
  · rw [hnew, List.mem_append, List.mem_singleton]
    rintro (hmem | heq)
    · exact h hmem
    · cases heq
      exact ha rfl
  · rw [hset]
    intro hmem
    rcases List.mem_or_eq_of_mem_set hmem with hold | heq
    · exact h hold
    · cases heq
  · rw [hsame]
    exact h

/-- The request is registered, or its token is cached and no other request is. -/
def Serving (s : Traffic) (f : Fetch) : Prop :=
  f.answer = none ∧ s.store.flight? f.key = some f.flight ∨
    ∃ a answer, f.answer = some a ∧ a.outcome = .ok answer ∧ s.store.flight? f.key = none ∧
      s.store.token? f.key = some (.ofAnswer answer a.time)

theorem Serving.spent (h : Serving s f) (alone : s.store.flight? f.key = none)
    (uncached : s.store.cached? s.clock f.key = none) : f.Spent s.clock := by
  rcases h with ⟨-, hreg⟩ | ⟨a, answer, ha, hok, -, htoken⟩
  · rw [hreg] at alone
    cases alone
  · refine ⟨a, ha, fun other hother => ?_⟩
    obtain rfl : answer = other := Except.ok.inj (hok.symm.trans hother)
    exact TokenStore.not_isValid_of_cached?_eq_none uncached htoken

theorem Serving.of_store {s' : Traffic} (h : Serving s f) (hflight : s'.store.flight? f.key = s.store.flight? f.key)
    (htoken : s'.store.token? f.key = s.store.token? f.key) : Serving s' f := by
  unfold Serving
  rw [hflight, htoken]
  exact h

theorem Serving.flight_eq (h : Serving s f) {r : Flight} (hr : s.store.flight? f.key = some r) : r = f.flight := by
  rcases h with ⟨-, hreg⟩ | ⟨_, _, -, -, hfree, -⟩
  · exact Option.some.inj (hr.symm.trans hreg)
  · rw [hfree] at hr
    cases hr

theorem spent_or_serving_of_landed {s' : Traffic} {key : TokenKey} {flight : Flight} {o : TokenOutcome} {now : Nat}
    (store : s'.store = s.store.landed now key o) :
    Fetch.Spent ⟨key, flight, some ⟨o, now⟩⟩ now ∨ Serving s' ⟨key, flight, some ⟨o, now⟩⟩ := by
  cases o with
  | error e => exact .inl ⟨_, rfl, fun answer hok => nomatch hok⟩
  | ok answer =>
    refine .inr (.inr ⟨_, answer, rfl, rfl, ?_, ?_⟩)
    · rw [store, TokenStore.flight?_landed, if_pos rfl]
    · rw [store, TokenStore.token?_landed_ok, if_pos rfl]

theorem Serving.step (h : Serving s f) (hs : Sound s) (hf : s.fetches[f.flight.generation]? = some f) {a : Step}
    (hquiet : Quiet f.key.clientId s) (ha : a ≠ .detach f.key.clientId)
    (hlater : (s.step a).fetches[f.flight.generation]? = some g) :
    g.Spent (s.step a).clock ∨ Serving (s.step a) g := by
  cases step_change s a with
  | none store fetches _ =>
    rw [fetches, hf] at hlater
    obtain rfl := Option.some.inj hlater
    exact .inr (h.of_store (by rw [store]) (by rw [store]))
  | opened _ w _ _ alone uncached store fetches clock =>
    rw [fetches, List.getElem?_append_left (List.getElem?_eq_some_iff.mp hf).1, hf] at hlater
    obtain rfl := Option.some.inj hlater
    by_cases hk : f.key = w.key
    · rw [clock]
      exact .inl (h.spent (hk ▸ alone) (hk ▸ uncached))
    · refine .inr (h.of_store ?_ ?_)
      · rw [store, TokenStore.flight?_openFlight alone, if_neg hk]
      · rw [store, TokenStore.token?_openFlight]
  | landed n key flight r o _ ready registered same store fetches clock =>
    rw [fetches] at hlater
    rcases set_cases ready hlater with ⟨-, rfl⟩ | ⟨hn, hold⟩
    · rw [clock]
      exact spent_or_serving_of_landed store
    · obtain rfl : f = g := Option.some.inj (hf.symm.trans hold)
      -- A flight of this key that lands is the request's own.
      have hk : f.key ≠ key := by
        rintro rfl
        obtain rfl : r = f.flight := h.flight_eq registered
        exact hn ((hs.numbered ready).symm.trans same.symm)
      refine .inr (h.of_store ?_ ?_)
      · rw [store, TokenStore.flight?_landed, if_neg hk]
      · rw [store, TokenStore.token?_landed_of_ne _ _ _ hk]
  | stale n key flight o _ ready unregistered store fetches _ =>
    rw [fetches] at hlater
    rcases set_cases ready hlater with ⟨rfl, rfl⟩ | ⟨-, hold⟩
    · obtain rfl : f = ⟨key, flight, none⟩ := Option.some.inj (hf.symm.trans ready)
      rcases h with ⟨-, hreg⟩ | ⟨_, _, hanswer, -⟩
      · exact absurd rfl (unregistered flight hreg)
      · cases hanswer
    · obtain rfl : f = g := Option.some.inj (hf.symm.trans hold)
      exact .inr (h.of_store (by rw [store]) (by rw [store]))
  | detached c party store fetches _ =>
    rw [fetches, hf] at hlater
    obtain rfl := Option.some.inj hlater
    have hc : f.key.clientId ≠ c := fun hc => ha (by rw [party, hc])
    refine .inr (h.of_store ?_ ?_)
    · rw [store, TokenStore.flight?_detach, if_neg hc]
    · rw [store, TokenStore.token?_detach]
  | forgotten n c _ ready store fetches _ =>
    rw [fetches, hf] at hlater
    obtain rfl := Option.some.inj hlater
    have hc : f.key.clientId ≠ c := fun hc => hquiet (hc ▸ List.mem_of_getElem? ready)
    refine .inr (h.of_store ?_ ?_)
    · rw [store, TokenStore.flight?_forget]
    · rw [store, TokenStore.token?_forget, if_neg hc]

def Orderly (key : TokenKey) (n : Nat) (s : Traffic) : Prop :=
  ∀ (i : Nat) (f : Fetch), n ≤ i → s.fetches[i]? = some f → f.key = key → f.Spent s.clock ∨ Serving s f

theorem Orderly.step {key : TokenKey} {n : Nat} (h : Orderly key n s) (hs : Sound s) {a : Step}
    (hquiet : Quiet key.clientId s) (ha : a ≠ .detach key.clientId) : Orderly key n (s.step a) := by
  intro i g hn hg hk
  cases hold : s.fetches[i]? with
  | some f =>
    obtain ⟨later, hl, hlater⟩ := step_later a hold
    obtain rfl : later = g := Option.some.inj (hl.symm.trans hg)
    rw [hlater.key] at hk
    subst hk
    rcases h i f hn hold rfl with hspent | hserving
    · exact .inl ((hspent.later hlater).mono (step_clock s a))
    · obtain rfl := hs.numbered hold
      exact hserving.step hs hold hquiet ha hl
  | none =>
    obtain ⟨-, -, -, hunanswered⟩ := step_begins hold hg
    exact .inr (.inl hunanswered)

theorem Orderly.run {key : TokenKey} {n : Nat} (h : Orderly key n s) (hs : Sound s) {as : List Step}
    (hquiet : Quiet key.clientId s) (ha : .detach key.clientId ∉ as) : Orderly key n (Traffic.run as s) := by
  induction as generalizing s with
  | nil => exact h
  | cons a as ih =>
    rw [List.mem_cons, not_or] at ha
    have hne : a ≠ .detach key.clientId := fun e => ha.1 e.symm
    exact ih (h.step hs hquiet hne) (hs.step a) (hquiet.step hne) ha.2

theorem spent_of_begins (hs : Sound s) {burst : List Step} {key : TokenKey} (hquiet : Quiet key.clientId s)
    (hburst : .detach key.clientId ∉ burst) (hi : s.fetches.length ≤ i) (hij : i < j)
    (hf : (run burst s).fetches[i]? = some f) (hg : (run burst s).fetches[j]? = some g)
    (hfk : f.key = key) (hgk : g.key = key) :
    ∃ bs k w cs before, burst = bs ++ .enter k :: cs ∧ (run bs s).callers[k]? = some ⟨w, .missed⟩ ∧ w.key = key ∧
      (run bs s).fetches[i]? = some before ∧ before.key = key ∧ before.Spent (run bs s).clock := by
  obtain ⟨bs, k, w, cs, rfl, hlength, hready, hw, alone, uncached⟩ := run_begins burst (by omega) hg
  obtain ⟨before, hbefore⟩ : ∃ before, (run bs s).fetches[i]? = some before :=
    ⟨_, List.getElem?_eq_getElem (by omega)⟩
  rw [run_append] at hf
  obtain ⟨later, hl, hlater⟩ := run_later (.enter k :: cs) hbefore
  obtain rfl : later = f := Option.some.inj (hl.symm.trans hf)
  have hk : before.key = key := hlater.key.symm.trans hfk
  have horderly : Orderly key s.fetches.length s := fun n r hn hr => by
    have := (List.getElem?_eq_some_iff.mp hr).1
    omega
  have hbs : .detach key.clientId ∉ bs := fun hmem => hburst (List.mem_append_left _ hmem)
  refine ⟨bs, k, w, cs, before, rfl, hready, hw.trans hgk, hbefore, hk, ?_⟩
  rcases (horderly.run hs hquiet hbs) i before hi hbefore hk with hspent | hserving
  · exact hspent
  · rw [hgk, ← hk] at alone uncached
    exact hserving.spent alone uncached

end Traffic
end CredentialGateway.Token
