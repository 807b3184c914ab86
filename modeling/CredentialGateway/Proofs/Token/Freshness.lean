import CredentialGateway.Proofs.Token.Bookkeeping

/-! Freshness: for some keys, all that is in flight, all that is cached and all that later callers get stems from
requests that began after a certain moment. Once it holds, every step keeps it. -/

namespace CredentialGateway.Token

namespace Traffic

def Answered (s : Traffic) (n : Nat) (key : TokenKey) (r : Except TokenError String) : Prop :=
  ∃ i f a, n ≤ i ∧ s.fetches[i]? = some f ∧ f.key = key ∧ f.answer = some a ∧ resultOf a.outcome = r

theorem Answered.step {s : Traffic} {n : Nat} {key : TokenKey} {r : Except TokenError String}
    (h : s.Answered n key r) (a : Step) : (s.step a).Answered n key r := by
  obtain ⟨i, f, ans, hn, hf, hk, ha, hr⟩ := h
  obtain ⟨later, hl, hlater⟩ := step_later a hf
  exact ⟨i, later, ans, hn, hl, hlater.key.trans hk, hlater.answer ha, hr⟩

end Traffic

def Caller.StemsFrom (s : Traffic) (n : Nat) (c : Caller) : Prop :=
  match c.stage with
  | .begun | .missed => True
  | .waiting generation => n ≤ generation ∧ ∃ f, s.fetches[generation]? = some f ∧ f.key = c.wish.key
  | .done r => s.Answered n c.wish.key r

theorem Caller.StemsFrom.step {s : Traffic} {n : Nat} {c : Caller} (h : c.StemsFrom s n) (a : Step) :
    c.StemsFrom (s.step a) n := by
  unfold StemsFrom at h ⊢
  split
  · trivial
  · trivial
  · rename_i generation hs
    simp only [hs] at h
    obtain ⟨hn, f, hf, hk⟩ := h
    obtain ⟨later, hl, hlater⟩ := Traffic.step_later a hf
    exact ⟨hn, later, hl, hlater.key.trans hk⟩
  · rename_i r hs
    simp only [hs] at h
    exact h.step a

namespace Traffic

structure Detached (K : TokenKey → Prop) (n : Nat) (s : Traffic) : Prop where
  begun : n ≤ s.fetches.length
  flights {key : TokenKey} {f : Flight} : K key → s.store.flight? key = some f → n ≤ f.generation

def Supplied (K : TokenKey → Prop) (n : Nat) (s : Traffic) : Prop :=
  ∀ (key : TokenKey) (t : CachedToken), K key → s.store.token? key = some t → t.isValid s.clock →
    s.Answered n key (.ok t.token)

/-- For these keys, all that callers from the `m`-th on can meet stems from requests from the `n`-th on. -/
structure Fresh (K : TokenKey → Prop) (n m : Nat) (s : Traffic) : Prop extends Detached K n s where
  tokens : Supplied K n s
  callers {k : Nat} {c : Caller} : m ≤ k → s.callers[k]? = some c → K c.wish.key → c.StemsFrom s n

variable {K : TokenKey → Prop} {n m : Nat} {s : Traffic}

theorem step_flight {a : Step} {key : TokenKey} {f : Flight} (h : (s.step a).store.flight? key = some f) :
    s.store.flight? key = some f ∨ f.generation = s.store.opened := by
  cases step_change s a with
  | none store _ _ | stale _ _ _ _ _ _ _ store _ _ =>
    rw [store] at h
    exact .inl h
  | opened _ w _ _ alone _ store _ _ =>
    rw [store, TokenStore.flight?_openFlight alone] at h
    split at h
    · cases h
      exact .inr rfl
    · exact .inl h
  | landed _ _ _ _ _ _ _ _ _ store _ _ =>
    rw [store, TokenStore.flight?_landed] at h
    split at h
    · cases h
    · exact .inl h
  | detached _ _ store _ _ =>
    rw [store, TokenStore.flight?_detach] at h
    split at h
    · cases h
    · exact .inl h
  | forgotten _ _ _ _ store _ _ =>
    rw [store, TokenStore.flight?_forget] at h
    exact .inl h

theorem Detached.step (h : Detached K n s) (hs : Sound s) (a : Step) : Detached K n (s.step a) where
  begun := Nat.le_trans h.begun (step_length s a).1
  flights {key f} hk hf := by
    rcases step_flight hf with hold | hnew
    · exact h.flights hk hold
    · rw [hnew, hs.opened]
      exact h.begun

theorem step_token {a : Step} {key : TokenKey} {t : CachedToken} (h : (s.step a).store.token? key = some t) :
    s.store.token? key = some t ∨
      ∃ (fetch : Nat) (flight f : Flight) (answer : TokenAnswer), s.fetches[fetch]? = some ⟨key, flight, none⟩ ∧
        s.store.flight? key = some f ∧ f.generation = flight.generation ∧ t = .ofAnswer answer s.clock ∧
        (s.step a).fetches[fetch]? = some ⟨key, flight, some ⟨.ok answer, s.clock⟩⟩ := by
  cases step_change s a with
  | none store _ _ | stale _ _ _ _ _ _ _ store _ _ =>
    rw [store] at h
    exact .inl h
  | opened _ w _ _ _ _ store _ _ =>
    rw [store, TokenStore.token?_openFlight] at h
    exact .inl h
  -- Only this step can bring a token, and it brings it for the key of the flight that lands.
  | landed fetch key' flight f o _ ready registered same store fetches _ =>
    cases o with
    | error e =>
      rw [store, TokenStore.token?_landed_error] at h
      exact .inl h
    | ok answer =>
      rw [store, TokenStore.token?_landed_ok] at h
      split at h
      · rename_i hk
        subst hk
        refine .inr ⟨fetch, flight, f, answer, ready, registered, same, (Option.some.inj h).symm, ?_⟩
        rw [fetches]
        exact List.getElem?_set_self (List.getElem?_eq_some_iff.mp ready).1
      · exact .inl h
  | detached _ _ store _ _ =>
    rw [store, TokenStore.token?_detach] at h
    exact .inl h
  | forgotten _ _ _ _ store _ _ =>
    rw [store, TokenStore.token?_forget] at h
    split at h
    · cases h
    · exact .inl h

theorem Supplied.step (h : Supplied K n s) (hd : Detached K n s) (hs : Sound s) (a : Step) :
    Supplied K n (s.step a) := by
  intro key t hk ht hvalid
  rcases step_token ht with hold | ⟨fetch, flight, f, answer, ready, hreg, hsame, rfl, hnew⟩
  · exact (h key t hk hold (CachedToken.isValid_of_le (step_clock s a) hvalid)).step a
  -- Only a registered flight brings a token, and no registered flight is older.
  · have hn : n ≤ fetch := by
      rw [← hs.numbered ready, ← hsame]
      exact hd.flights hk hreg
    exact ⟨fetch, _, _, hn, hnew, rfl, rfl, rfl⟩

theorem Fresh.step (h : Fresh K n m s) (hs : Sound s) (a : Step) : Fresh K n m (s.step a) where
  toDetached := h.toDetached.step hs a
  tokens := h.tokens.step h.toDetached hs a
  callers {k c} hm hc hk := by
    cases hold : s.callers[k]? with
    | none => simp [Caller.StemsFrom, step_newcomer hc hold]
    | some before =>
      obtain ⟨stage, hstage, hadvance⟩ := step_caller hold a
      obtain rfl := Option.some.inj (hstage.symm.trans hc)
      cases hadvance with
      | stays => exact (h.callers hm hold hk).step a
      | misses _ => trivial
      | finds token _ cached =>
        obtain ⟨t, ht, hvalid, rfl⟩ := TokenStore.token?_eq_some_of_cached? cached
        exact (h.tokens _ t hk ht hvalid).step a
      | boards f _ flight =>
        exact ⟨(h.toDetached.step hs a).flights hk flight, _, (hs.step a).flights flight, rfl⟩
      | collects generation f ans hwaits fetch answer =>
        have hwait := h.callers hm hold hk
        rw [hs.fetchOf?_eq] at fetch
        simp only [Caller.StemsFrom, hwaits] at hwait
        obtain ⟨hn, f', hf', hkey⟩ := hwait
        obtain rfl : f = f' := Option.some.inj (fetch.symm.trans hf')
        exact Answered.step ⟨generation, f, ans, hn, fetch, hkey, answer, rfl⟩ a

theorem Fresh.run (h : Fresh K n m s) (hs : Sound s) (as : List Step) : Fresh K n m (Traffic.run as s) :=
  hs.run_keeps (fun _ a hs h => h.step hs a) h as

end Traffic
end CredentialGateway.Token
