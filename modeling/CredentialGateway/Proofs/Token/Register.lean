import CredentialGateway.Proofs.Token.Outstanding

/-! The register of flights, entry by entry: each entry belongs to one outstanding request, the end of this request
takes it out, and no other request touches it. -/

namespace CredentialGateway

open Keyed

namespace TokenStore

structure IsKeyed (s : TokenStore) : Prop where
  tokens : (s.tokens.map Prod.fst).Nodup
  flights : (s.inFlight.map Prod.fst).Nodup

namespace IsKeyed

variable {s : TokenStore} {key : TokenKey}

theorem mem_inFlight_iff (h : s.IsKeyed) {f : Flight} : (key, f) ∈ s.inFlight ↔ s.flight? key = some f :=
  mem_iff_find?_key h.flights key f

theorem openFlight (h : s.IsKeyed) (alone : s.flight? key = none) (secret : String) :
    (s.openFlight key secret).IsKeyed where
  tokens := h.tokens
  flights := nodup_keys_append h.flights (Option.map_eq_none_iff.mp alone) _

theorem setToken (h : s.IsKeyed) (key : TokenKey) (t : CachedToken) : (s.setToken key t).IsKeyed where
  tokens := by
    refine nodup_keys_append (nodup_keys_filter h.tokens _) ?_ t
    rw [find?_filter_key s.tokens (fun k => k != key)]
    simp
  flights := h.flights

theorem removeFlight (h : s.IsKeyed) (key : TokenKey) : (s.removeFlight key).IsKeyed :=
  ⟨h.tokens, nodup_keys_filter h.flights _⟩

theorem landed (h : s.IsKeyed) (now : Nat) (key : TokenKey) (o : TokenOutcome) : (s.landed now key o).IsKeyed := by
  cases o with
  | error e => exact h.removeFlight key
  | ok a => exact (h.setToken key _).removeFlight key

theorem detach (h : s.IsKeyed) (clientId : String) : (s.detach clientId).IsKeyed :=
  ⟨h.tokens, nodup_keys_filter h.flights _⟩

theorem forget (h : s.IsKeyed) (clientId : String) : (s.forget clientId).IsKeyed :=
  ⟨nodup_keys_filter h.tokens _, h.flights⟩

end IsKeyed
end TokenStore

namespace Token.Traffic

variable {s : Traffic} {i : Nat} {f : Fetch}

theorem isKeyed_start : start.store.IsKeyed := ⟨List.nodup_nil, List.nodup_nil⟩

theorem isKeyed_step (h : s.store.IsKeyed) (a : Step) : (s.step a).store.IsKeyed := by
  cases step_change s a with
  | none store _ _ | stale _ _ _ _ _ _ _ store _ _ => exact store ▸ h
  | opened _ w _ _ alone _ store _ _ => exact store ▸ h.openFlight alone w.clientSecret
  | landed _ key _ _ o _ _ _ _ store _ _ => exact store ▸ h.landed s.clock key o
  | detached clientId _ store _ _ => exact store ▸ h.detach clientId
  | forgotten _ clientId _ _ store _ _ => exact store ▸ h.forget clientId

theorem isKeyed_run (h : s.store.IsKeyed) (as : List Step) : (run as s).store.IsKeyed :=
  run_keeps (P := fun s => s.store.IsKeyed) (fun _ a h => isKeyed_step h a) h as

/-- The register has an entry for this request: its key, with the flight that was opened for it. -/
def Registered (s : Traffic) (f : Fetch) : Prop := (f.key, f.flight) ∈ s.store.inFlight

theorem registered_iff (h : s.store.IsKeyed) : s.Registered f ↔ s.store.flight? f.key = some f.flight :=
  h.mem_inFlight_iff

theorem store_complete_of_not_registered (hs : Sound s) (hkeyed : s.store.IsKeyed) (hf : s.fetches[i]? = some f)
    (hentry : ¬ s.Registered f) (o : TokenOutcome) : (s.step (.complete i o)).store = s.store := by
  cases step_change s (.complete i o) with
  | none store _ _ | stale _ _ _ _ _ _ _ store _ _ => exact store
  | opened _ _ party _ _ _ _ _ _ | detached _ party _ _ _ | forgotten _ _ party _ _ _ _ => cases party
  | landed _ key flight r _ party ready registered same _ _ _ =>
    cases party
    obtain rfl : f = ⟨key, flight, none⟩ := Option.some.inj (hf.symm.trans ready)
    obtain ⟨-, rfl, -⟩ := Fetch.mk.inj (hs.eq_of_generation hf registered same)
    exact absurd ((registered_iff hkeyed).mpr registered) hentry

theorem store_complete_of_registered (hkeyed : s.store.IsKeyed) (hf : s.fetches[i]? = some f) (hnone : f.answer = none)
    (hentry : s.Registered f) (o : TokenOutcome) :
    (s.step (.complete i o)).store = s.store.landed s.clock f.key o := by
  obtain ⟨key, flight, answer⟩ := f
  obtain rfl : answer = none := hnone
  simp only [step, complete, hf]
  exact TokenStore.complete_eq_landed ((registered_iff hkeyed).mp hentry) s.clock o

theorem belongs (hs : Sound s) (hkeyed : s.store.IsKeyed) {key : TokenKey} {flight : Flight}
    (h : (key, flight) ∈ s.store.inFlight) : ∃! i : Nat, s.fetches[i]? = some ⟨key, flight, none⟩ := by
  have hregistered := hkeyed.mem_inFlight_iff.mp h
  exact ⟨flight.generation, hs.flights hregistered, fun i hi => (hs.numbered hi).symm⟩

theorem generation_ne (hs : Sound s) {j : Nat} {g : Fetch} (hij : i ≠ j) (hf : s.fetches[i]? = some f)
    (hg : s.fetches[j]? = some g) : f.flight.generation ≠ g.flight.generation ∧
      (s.fetches.length ≤ UInt64.size → UInt64.ofNat f.flight.generation ≠ UInt64.ofNat g.flight.generation) := by
  rw [hs.numbered hf, hs.numbered hg]
  refine ⟨hij, fun hcount heq => hij ?_⟩
  have hi : i < UInt64.size := Nat.lt_of_lt_of_le (List.getElem?_eq_some_iff.mp hf).1 hcount
  have hj : j < UInt64.size := Nat.lt_of_lt_of_le (List.getElem?_eq_some_iff.mp hg).1 hcount
  have hvalue := congrArg UInt64.toNat heq
  rwa [UInt64.toNat_ofNat_of_lt' hi, UInt64.toNat_ofNat_of_lt' hj] at hvalue

theorem mem_inFlight_landed (hkeyed : s.store.IsKeyed) (hentry : s.Registered f) (o : TokenOutcome)
    (e : TokenKey × Flight) :
    e ∈ (s.store.landed s.clock f.key o).inFlight ↔ e ∈ s.store.inFlight ∧ e ≠ (f.key, f.flight) := by
  have hlanded : (s.store.landed s.clock f.key o).inFlight = s.store.inFlight.filter fun e => e.1 != f.key := by
    cases o <;> rfl
  rw [hlanded, List.mem_filter, bne_iff_ne]
  refine and_congr_right fun he => not_congr ⟨fun hkey => ?_, fun heq => heq ▸ rfl⟩
  exact List.inj_on_of_nodup_map hkeyed.flights he hentry hkey

/-- Every entry belongs to one outstanding request, which began with it. The end of this request takes out this entry
and no other and, if there is a token, gives it to this key and to no other; the end of a request that has lost its
entry changes nothing. -/
theorem flights_belong_to_requests (past : List Step) :
    let s := run past start
    s.store.IsKeyed ∧
    (∀ key flight, (key, flight) ∈ s.store.inFlight → ∃! i : Nat, s.fetches[i]? = some ⟨key, flight, none⟩) ∧
    (∀ (i j : Nat) (f g : Fetch), i ≠ j → s.fetches[i]? = some f → s.fetches[j]? = some g →
      f.flight.generation ≠ g.flight.generation ∧
        (s.fetches.length ≤ UInt64.size → UInt64.ofNat f.flight.generation ≠ UInt64.ofNat g.flight.generation)) ∧
    (∀ (a : Step) (i : Nat) (f : Fetch), s.fetches[i]? = none → (s.step a).fetches[i]? = some f →
      (s.step a).Registered f) ∧
    (∀ (i : Nat) (f : Fetch) (o : TokenOutcome), s.fetches[i]? = some f → f.answer = none →
      let after := (s.step (.complete i o)).store
      (¬ s.Registered f → after = s.store) ∧
      (s.Registered f →
        (∀ e, e ∈ after.inFlight ↔ e ∈ s.store.inFlight ∧ e ≠ (f.key, f.flight)) ∧
        (∀ e, o = .error e → after.tokens = s.store.tokens) ∧
        ∀ answer, o = .ok answer → ∀ key,
          after.token? key = if key = f.key then some (.ofAnswer answer s.clock) else s.store.token? key)) ∧
    ((∀ f ∈ s.fetches, f.answer ≠ none) → s.store.inFlight = []) := by
  intro s
  have hs : Sound s := sound_start.run past
  have hkeyed (as : List Step) : (run as start).store.IsKeyed := isKeyed_run isKeyed_start as
  refine ⟨hkeyed past, fun key flight => belongs hs (hkeyed past), fun i j f g hij => generation_ne hs hij, ?_, ?_, ?_⟩
  · intro a i f hi hf
    obtain ⟨-, -, -, -, hregistered⟩ := step_begins hi hf
    exact (registered_iff (isKeyed_step (hkeyed past) a)).mpr hregistered
  · intro i f o hf hnone after
    refine ⟨fun hentry => store_complete_of_not_registered hs (hkeyed past) hf hentry o, fun hentry => ?_⟩
    have hlanded : after = s.store.landed s.clock f.key o :=
      store_complete_of_registered (hkeyed past) hf hnone hentry o
    rw [hlanded]
    refine ⟨mem_inFlight_landed (hkeyed past) hentry o, ?_, ?_⟩
    · rintro e rfl
      rfl
    · rintro answer rfl key
      exact TokenStore.token?_landed_ok s.store s.clock f.key answer key
  · -- An entry that is left has a request without answer behind it.
    intro hanswered
    rw [List.eq_nil_iff_forall_not_mem]
    rintro ⟨key, flight⟩ hentry
    obtain ⟨i, hi, -⟩ := belongs hs (hkeyed past) hentry
    exact hanswered _ (List.mem_of_getElem? hi) rfl

/-- A request whose entry was removed and replaced by that of the next one ends without a trace. The next one still has
its entry, and gives it up for a token. -/
theorem flights_belong_to_replacement :
    let w : Wish := ⟨⟨"client", "https://issuer.test/token"⟩, "secret"⟩
    let older : Fetch := ⟨w.key, ⟨0, "secret"⟩, none⟩
    let newer : Fetch := ⟨w.key, ⟨1, "secret"⟩, none⟩
    let answer (token : String) : TokenOutcome := .ok ⟨token, none, none⟩
    let first : List Step := [.call w, .call w, .look 0, .look 1, .enter 0, .detach "client"]
    let past := first ++ [.enter 1]
    let whole := past ++ [.complete 0 (answer "old"), .complete 1 (answer "new")]
    (run past start).Registered newer ∧ older.flight.generation ≠ newer.flight.generation ∧
      ((run past start).step (.complete 0 (answer "old"))).store = (run past start).store ∧
      (newer.key, newer.flight) ∉ ((run past start).step (.complete 1 (answer "new"))).store.inFlight ∧
      ((run past start).step (.complete 1 (answer "new"))).store.token? w.key = some ⟨"new", none⟩ ∧
      (run whole start).store.inFlight = [] := by
  intro w older newer answer first past whole
  have holder : (run past start).fetches[0]? = some older := rfl
  have hnewer : (run past start).fetches[1]? = some newer := rfl
  obtain ⟨-, -, -, hbegins, -, -⟩ := flights_belong_to_requests first
  obtain ⟨-, -, hdistinct, -, hends, -⟩ := flights_belong_to_requests past
  obtain ⟨-, -, -, -, -, hempty⟩ := flights_belong_to_requests whole
  have hentry : (run past start).Registered newer := hbegins (.enter 1) 1 newer rfl hnewer
  have hlost : ¬ (run past start).Registered older := by
    have hentries : (run past start).store.inFlight = [(newer.key, newer.flight)] := rfl
    rw [Registered, hentries]
    decide
  obtain ⟨-, hfound⟩ := hends 1 newer (answer "new") hnewer rfl
  obtain ⟨hflights, -, htoken⟩ := hfound hentry
  refine ⟨hentry, (hdistinct 0 1 older newer (by decide) holder hnewer).1, ?_, ?_, ?_, ?_⟩
  · exact (hends 0 older (answer "old") holder rfl).1 hlost
  · exact fun hstill => ((hflights _).mp hstill).2 rfl
  · exact (htoken _ rfl w.key).trans (if_pos rfl)
  · refine hempty fun f hf hnone => ?_
    have hanswers : (run whole start).fetches.map (fun f => f.answer.isSome) = [true, true] := by decide +kernel
    have hsome : f.answer.isSome ∈ [true, true] := hanswers ▸ List.mem_map.mpr ⟨f, hf, rfl⟩
    rw [hnone] at hsome
    simp at hsome

end Token.Traffic
end CredentialGateway
