import CredentialGateway.Proofs.Token.Freshness
import CredentialGateway.Proofs.Token.Waiting
import Mathlib.Data.List.Permutation

/-! An invalidation is a barrier: what callers get after it has returned was asked for after it began. The flights that
it detached still serve those who wait for them, and leave nothing in the store. -/

namespace CredentialGateway.Token.Traffic

variable {s : Traffic} {c : String} {n i : Nat}

theorem step_invalidation {inv : Invalidation} (h : s.invalidations[i]? = some inv) (a : Step) :
    (s.step a).invalidations[i]? = some inv ∨
      ((s.step a).invalidations[i]? = some ⟨inv.clientId, true⟩ ∧
        (s.step a).store = s.store.forget inv.clientId) := by
  rcases step_invalidations s a with ⟨c, -, hnew⟩ | ⟨j, c, hj, hset, hstore⟩ | hsame
  · rw [hnew]
    exact .inl ((List.getElem?_append_left (List.getElem?_eq_some_iff.mp h).1).trans h)
  · rw [hset]
    by_cases hij : j = i
    · subst hij
      obtain rfl : inv = ⟨c, false⟩ := Option.some.inj (h.symm.trans hj)
      exact .inr ⟨List.getElem?_set_self (List.getElem?_eq_some_iff.mp h).1, hstore⟩
    · exact .inl ((List.getElem?_set_ne hij).trans h)
  · rw [hsame]
    exact .inl h

/-- The `i`-th invalidation is one of this client and began after `n` requests: no older flight of the client is
registered and, once the invalidation has returned, no token that an older one brought is cached. -/
structure Barred (c : String) (n i : Nat) (s : Traffic) : Prop
    extends Detached (fun key => key.clientId = c) n s where
  entry : ∃ finished, s.invalidations[i]? = some ⟨c, finished⟩ ∧
    (finished = true → Supplied (fun key => key.clientId = c) n s)

theorem barred_detach (s : Traffic) (c : String) :
    Barred c s.fetches.length s.invalidations.length (s.step (.detach c)) where
  begun := Nat.le_refl _
  flights {key f} hk hf := by
    have h : (s.store.detach c).flight? key = some f := hf
    rw [TokenStore.flight?_detach, if_pos hk] at h
    cases h
  entry := ⟨false, List.getElem?_concat_length, fun h => nomatch h⟩

theorem Barred.step (h : Barred c n i s) (hs : Sound s) (a : Step) : Barred c n i (s.step a) where
  toDetached := h.toDetached.step hs a
  entry := by
    obtain ⟨finished, hi, htokens⟩ := h.entry
    rcases step_invalidation hi a with hstill | ⟨hfinished, hstore⟩
    · exact ⟨finished, hstill, fun hf => (htokens hf).step h.toDetached hs a⟩
    -- The second half removes every token of the client, so nothing is left to account for.
    · refine ⟨true, hfinished, fun _ key t hk ht _ => ?_⟩
      rw [hstore, TokenStore.token?_forget, if_pos hk] at ht
      cases ht

theorem Barred.run (h : Barred c n i s) (hs : Sound s) (as : List Step) : Barred c n i (Traffic.run as s) :=
  hs.run_keeps (fun _ a hs h => h.step hs a) h as

theorem Barred.fresh (h : Barred c n i s) (hi : s.invalidations[i]? = some ⟨c, true⟩) :
    Fresh (fun key => key.clientId = c) n s.callers.length s where
  toDetached := h.toDetached
  tokens := by
    obtain ⟨finished, hf, htokens⟩ := h.entry
    obtain ⟨-, rfl⟩ := Invalidation.mk.inj (Option.some.inj (hf.symm.trans hi))
    exact htokens rfl
  callers hk hc _ := by
    have := (List.getElem?_eq_some_iff.mp hc).1
    omega

theorem Detached.store_complete {K : TokenKey → Prop} (h : Detached K n s) (hs : Sound s) {fetch : Nat} {f : Fetch}
    (hf : s.fetches[fetch]? = some f) (hk : K f.key) (hn : fetch < n) (o : TokenOutcome) :
    (s.step (.complete fetch o)).store = s.store := by
  cases step_change s (.complete fetch o) with
  | none store _ _ | stale _ _ _ _ _ _ _ store _ _ => exact store
  | opened _ _ party _ _ _ _ _ _ | detached _ party _ _ _ | forgotten _ _ party _ _ _ _ => cases party
  | landed _ key flight g _ party ready registered same _ _ _ =>
    cases party
    obtain rfl : f = ⟨key, flight, none⟩ := Option.some.inj (hf.symm.trans ready)
    have hold := h.flights hk registered
    rw [same, hs.numbered hf] at hold
    omega

/-- A call that begins after an invalidation of its client has returned gets only tokens that were asked for after the
invalidation began. A request that was in flight at that time leaves nothing in the store when it ends; those who waited
for it get its result. -/
theorem invalidation_barrier (past : List Step) (c : String) :
    let s := run past start
    (∀ (within rest : List Step) (w : Wish) (token : String), w.key.clientId = c →
      let called := run (.detach c :: within) s
      let final := run (.call w :: rest) called
      called.invalidations[s.invalidations.length]? = some ⟨c, true⟩ →
      final.stage? called.callers.length = some (.done (.ok token)) →
      final.Answered s.fetches.length w.key (.ok token)) ∧
    ∀ (later : List Step) (fetch : Nat) (f : Fetch) (o : TokenOutcome), f.key.clientId = c →
      s.fetches[fetch]? = some f → f.answer = none →
      let t := run (.detach c :: later) s
      t.fetches[fetch]? = some f →
      (t.step (.complete fetch o)).store = t.store ∧
      ∀ (k : Nat) (more : List Step), s.stage? k = some (.waiting fetch) →
        (run (.complete fetch o :: more ++ [.collect k]) t).stage? k = some (.done (resultOf o)) := by
  intro s
  have hs : Sound s := sound_start.run past
  have hd := hs.step (.detach c)
  have hbarred := barred_detach s c
  constructor
  · intro within rest w token hw called final hreturned hdone
    have hcalled : Sound called := hd.run within
    -- Once both halves are over, nothing in the store is older than the invalidation.
    have hfresh := (hbarred.run hd within).fresh hreturned
    have hfinal : Fresh _ _ _ final := hfresh.run hcalled (.call w :: rest)
    obtain ⟨d, hk, hstage⟩ := Option.map_eq_some_iff.mp hdone
    have hwish : d.wish = w := wish_run (List.getElem?_concat_length) rest hk
    have hstems := hfinal.callers (Nat.le_refl _) hk (by rw [hwish]; exact hw)
    simp only [Caller.StemsFrom, hstage, hwish] at hstems
    exact hstems
  · intro later fetch f o hc hf hnone t ht
    refine ⟨(hbarred.run hd later).store_complete (hd.run later) ht hc (List.getElem?_eq_some_iff.mp hf).1 o,
      fun k more hwait => ?_⟩
    -- To lose its flight in the store does not take it from those who wait for it.
    have hholds : Holds t k fetch := (Holds.step (.inl hwait) hs (.detach c)).run hd later
    obtain ⟨key, flight, answer⟩ := f
    obtain rfl : answer = none := hnone
    exact hholds.result (hd.run later) ht o more

/-- A token that was asked for before the invalidation comes too late for the cache, but not for its caller. -/
theorem invalidation_barrier_renewal :
    let w : Wish := ⟨⟨"client", "https://issuer.test/token"⟩, "secret"⟩
    let stale : Step := .complete 0 (.ok ⟨"old", none, none⟩)
    let renewal : Step := .complete 1 (.ok ⟨"new", none, none⟩)
    let s := run [.call w, .look 0, .enter 0] start
    let called := run [.detach "client", .forget 0] s
    (run [.call w, stale, .look 1, .enter 1, renewal, .collect 1] called).Answered 1 w.key (.ok "new") ∧
      (called.step stale).store = called.store ∧
      (run [stale, .collect 0] called).stage? 0 = some (.done (.ok "old")) := by
  intro w stale renewal s called
  obtain ⟨hfresh, hold⟩ := invalidation_barrier [.call w, .look 0, .enter 0] "client"
  have hinFlight : s.fetches[0]? = some ⟨w.key, ⟨0, "secret"⟩, none⟩ := rfl
  have hstill : called.fetches[0]? = some ⟨w.key, ⟨0, "secret"⟩, none⟩ := rfl
  obtain ⟨hstore, hresult⟩ := hold [.forget 0] 0 _ (.ok ⟨"old", none, none⟩) rfl hinFlight rfl hstill
  refine ⟨?_, hstore, hresult 0 [] rfl⟩
  exact hfresh [.forget 0] [stale, .look 1, .enter 1, renewal, .collect 1] w "new" rfl (by cbv) (by cbv)

end CredentialGateway.Token.Traffic
