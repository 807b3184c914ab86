import CredentialGateway.Proofs.Token.Freshness
import CredentialGateway.Proofs.Token.Serving
import CredentialGateway.Proofs.Token.Waiting
import Mathlib.Data.List.Permutation

/-! Callers of one key share a request: while one is outstanding or the token that it brought is valid, only an
invalidation lets the next begin. -/

namespace CredentialGateway.Token

def Caller.Entered (c : Caller) : Prop :=
  match c.stage with
  | .begun | .missed => False
  | .waiting _ | .done _ => True

namespace Traffic

variable {s : Traffic} {i j : Nat} {f g : Fetch}

/-- No caller of the key enters once a request of the burst for it has failed or its token has expired. -/
def Concurrent (key : TokenKey) (s : Traffic) (burst : List Step) : Prop :=
  ∀ (bs : List Step) (k : Nat) (w : Wish) (cs : List Step), burst = bs ++ .enter k :: cs →
    (run bs s).callers[k]? = some ⟨w, .missed⟩ → w.key = key →
    ∀ (i : Nat) (f : Fetch), s.fetches.length ≤ i → (run bs s).fetches[i]? = some f → f.key = key →
      ¬ f.Spent (run bs s).clock

theorem unanswered_run {n : Nat} {as : List Step} (has : ∀ m o, .complete m o ∉ as)
    (h : ∀ i f, n ≤ i → s.fetches[i]? = some f → f.answer = none) (hn : n ≤ i)
    (hf : (run as s).fetches[i]? = some f) : f.answer = none := by
  induction as generalizing s with
  | nil => exact h i f hn hf
  | cons a as ih =>
    refine ih (fun m o hmem => has m o (List.mem_cons_of_mem _ hmem)) (fun i g hi hg => ?_) hf
    cases hold : s.fetches[i]? with
    | none =>
      obtain ⟨-, -, -, hanswer, -⟩ := step_begins hold hg
      exact hanswer
    | some before =>
      cases step_change s a with
      | none _ fetches _ | detached _ _ _ fetches _ | forgotten _ _ _ _ _ fetches _ =>
        rw [fetches] at hg
        exact h i g hi hg
      | opened _ _ _ _ _ _ _ fetches _ =>
        rw [fetches, List.getElem?_append_left (List.getElem?_eq_some_iff.mp hold).1] at hg
        exact h i g hi hg
      | landed m _ _ _ o party _ _ _ _ _ _ | stale m _ _ o party _ _ _ _ _ =>
        exact absurd (by rw [party]; exact List.mem_cons_self) (has m o)

theorem concurrent_of_unanswered {key : TokenKey} {burst : List Step} (h : ∀ m o, .complete m o ∉ burst) :
    Concurrent key s burst := by
  rintro bs k w cs rfl - - i f hi hf - ⟨a, ha, -⟩
  have hnone : f.answer = none := unanswered_run (n := s.fetches.length)
    (fun m o hmem => h m o (List.mem_append_left _ hmem))
    (fun j g hj hg => absurd (List.getElem?_eq_some_iff.mp hg).1 (Nat.not_lt.mpr hj)) hi hf
  rw [hnone] at ha
  cases ha

theorem Concurrent.at_most_one {burst : List Step} {key : TokenKey} (h : Concurrent key s burst) (hs : Sound s)
    (hquiet : Quiet key.clientId s) (hburst : .detach key.clientId ∉ burst) (hi : s.fetches.length ≤ i)
    (hf : (run burst s).fetches[i]? = some f) (hg : (run burst s).fetches[j]? = some g) (hfk : f.key = key)
    (hgk : g.key = key) : ¬ i < j := by
  intro hij
  obtain ⟨bs, k, w, cs, before, hsplit, hready, hw, hbefore, hk, hspent⟩ :=
    spent_of_begins hs hquiet hburst hi hij hf hg hfk hgk
  exact h bs k w cs hsplit hready hw i before hi hbefore hk hspent

theorem fresh_of_cold {key : TokenKey} (uncached : s.store.cached? s.clock key = none)
    (alone : s.store.flight? key = none) : Fresh (· = key) s.fetches.length s.callers.length s where
  begun := Nat.le_refl _
  flights hk hf := by
    rw [hk, alone] at hf
    cases hf
  tokens _ t hk ht hvalid := by
    rw [hk] at ht
    rw [TokenStore.not_isValid_of_cached?_eq_none uncached ht] at hvalid
    cases hvalid
  callers hm hc _ := by
    have := (List.getElem?_eq_some_iff.mp hc).1
    omega

theorem holds_of_stemsFrom {n k : Nat} {c : Caller} (h : c.StemsFrom s n) (hk : s.callers[k]? = some c)
    (hc : c.Entered) : ∃ i f, n ≤ i ∧ s.fetches[i]? = some f ∧ f.key = c.wish.key ∧ Holds s k i := by
  have hstage : s.stage? k = some c.stage := by rw [stage?, hk, Option.map_some]
  unfold Caller.StemsFrom at h
  unfold Caller.Entered at hc
  split at h
  · rename_i hbegun
    simp only [hbegun] at hc
  · rename_i hmissed
    simp only [hmissed] at hc
  · rename_i generation hwaits
    obtain ⟨hn, f, hf, hfk⟩ := h
    exact ⟨generation, f, hn, hf, hfk, .inl (hwaits ▸ hstage)⟩
  · rename_i r hdone
    obtain ⟨i, f, a, hn, hf, hfk, ha, rfl⟩ := h
    exact ⟨i, f, hn, hf, hfk, .inr ⟨f, a, hf, ha, hdone ▸ hstage⟩⟩

/-- A request begins only when its key has no valid token and no request in flight. One that is still outstanding when
another has begun was removed by an invalidation before that. Without an invalidation, a burst of concurrent callers that
finds nothing brings exactly one request, and this one serves all of them. -/
theorem single_flight (past : List Step) :
    let s := run past start
    (∀ (a : Step) (i : Nat) (f : Fetch), s.fetches[i]? = none → (s.step a).fetches[i]? = some f →
      s.store.cached? s.clock f.key = none ∧ s.store.flight? f.key = none) ∧
    (∀ (i j : Nat) (f g : Fetch), i < j → s.fetches[i]? = some f → s.fetches[j]? = some g → f.key = g.key →
      f.answer = none → ∃ before after, past = before ++ .detach f.key.clientId :: after ∧
        (run before start).store.flight? f.key = some f.flight ∧
        ((run before start).step (.detach f.key.clientId)).store.flight? f.key = none ∧
        (run before start).fetches.length ≤ j) ∧
    ∀ (burst : List Step) (key : TokenKey), .detach key.clientId ∉ burst → Quiet key.clientId s →
      s.store.cached? s.clock key = none → s.store.flight? key = none → Concurrent key s burst →
      let final := run burst s
      (∃ k c, s.callers.length ≤ k ∧ final.callers[k]? = some c ∧ c.wish.key = key ∧ c.Entered) →
      ∃ i, (s.fetches.length ≤ i ∧ ∃ f, final.fetches[i]? = some f ∧ f.key = key) ∧
        (∀ j g, s.fetches.length ≤ j → final.fetches[j]? = some g → g.key = key → j = i) ∧
        ∀ k c, s.callers.length ≤ k → final.callers[k]? = some c → c.wish.key = key → c.Entered → Holds final k i := by
  intro s
  have hs : Sound s := sound_start.run past
  refine ⟨fun a i f hi hf => ?_, fun i j f g hij hf hg hkey hnone => ?_, ?_⟩
  · obtain ⟨-, alone, uncached, -⟩ := step_begins hi hf
    exact ⟨uncached, alone⟩
  · obtain ⟨before, after, hsplit, hreg, hlength⟩ := removed_of_outstanding past hij hf hg hkey hnone
    refine ⟨before, after, hsplit, hreg, ?_, hlength⟩
    exact (TokenStore.flight?_detach _ _ _).trans (if_pos rfl)
  · intro burst key hburst hquiet uncached alone hconcurrent final hentered
    have hfresh : Fresh _ _ _ final := (fresh_of_cold uncached alone).run hs burst
    have hholds {k : Nat} {c : Caller} (hm : s.callers.length ≤ k) (hk : final.callers[k]? = some c)
        (hw : c.wish.key = key) (hc : c.Entered) :
        ∃ i f, s.fetches.length ≤ i ∧ final.fetches[i]? = some f ∧ f.key = key ∧ Holds final k i := by
      obtain ⟨i, f, hi, hf, hfk, h⟩ := holds_of_stemsFrom (hfresh.callers hm hk hw) hk hc
      exact ⟨i, f, hi, hf, hfk.trans hw, h⟩
    obtain ⟨k, c, hm, hk, hw, hc⟩ := hentered
    obtain ⟨i, f, hi, hf, hfk, -⟩ := hholds hm hk hw hc
    -- Either of two requests of the burst would have to come before the other.
    have honly (j : Nat) (g : Fetch) (hj : s.fetches.length ≤ j) (hg : final.fetches[j]? = some g)
        (hgk : g.key = key) : j = i := by
      have hij := hconcurrent.at_most_one hs hquiet hburst hi hf hg hfk hgk
      have hji := hconcurrent.at_most_one hs hquiet hburst hj hg hf hgk hfk
      omega
    refine ⟨i, ⟨hi, f, hf, hfk⟩, honly, fun k c hm hk hw hc => ?_⟩
    obtain ⟨j, g, hj, hg, hgk, h⟩ := hholds hm hk hw hc
    rw [← honly j g hj hg hgk]
    exact h

/-- Two callers share a request; with an invalidation between them there are two. -/
theorem single_flight_pair :
    let w : Wish := ⟨⟨"client", "https://issuer.test/token"⟩, "secret"⟩
    let alone := run [.call w, .look 0] start
    let shared : List Step := [.call w, .call w, .look 0, .look 1, .enter 0, .enter 1]
    let parted : List Step := [.call w, .call w, .look 0, .look 1, .enter 0, .detach "client", .enter 1]
    (alone.store.cached? alone.clock w.key = none ∧ alone.store.flight? w.key = none) ∧
      (∃ i, Holds (run shared start) 0 i ∧ Holds (run shared start) 1 i) ∧
      ∃ before after, parted = before ++ .detach "client" :: after ∧
        (run before start).store.flight? w.key = some ⟨0, "secret"⟩ := by
  intro w alone shared parted
  refine ⟨?_, ?_, ?_⟩
  · have hnone : alone.fetches[0]? = none := by cbv
    have hbegins : (alone.step (.enter 0)).fetches[0]? = some ⟨w.key, ⟨0, "secret"⟩, none⟩ := by cbv
    obtain ⟨hcold, -, -⟩ := single_flight [.call w, .look 0]
    exact hcold (.enter 0) 0 _ hnone hbegins
  · have hdetach : .detach w.key.clientId ∉ shared := by simp [shared]
    have hconcurrent : Concurrent w.key start shared := concurrent_of_unanswered fun m o => by simp [shared]
    have hquiet : Quiet w.key.clientId start := by simp [Quiet, start]
    have hfirst : (run shared start).callers[0]? = some ⟨w, .waiting 0⟩ := by cbv
    have hsecond : (run shared start).callers[1]? = some ⟨w, .waiting 0⟩ := by cbv
    obtain ⟨-, -, hburst⟩ := single_flight []
    obtain ⟨i, -, -, hholds⟩ := hburst shared w.key hdetach hquiet rfl rfl hconcurrent
      ⟨0, ⟨w, .waiting 0⟩, Nat.le_refl _, hfirst, rfl, trivial⟩
    exact ⟨i, hholds 0 _ (Nat.le_refl _) hfirst rfl trivial, hholds 1 _ (Nat.zero_le _) hsecond rfl trivial⟩
  · have hfirst : (run parted start).fetches[0]? = some ⟨w.key, ⟨0, "secret"⟩, none⟩ := by cbv
    have hsecond : (run parted start).fetches[1]? = some ⟨w.key, ⟨1, "secret"⟩, none⟩ := by cbv
    obtain ⟨-, hremoved, -⟩ := single_flight parted
    obtain ⟨before, after, hsplit, hreg, -⟩ := hremoved 0 1 _ _ (Nat.lt_succ_self 0) hfirst hsecond rfl rfl
    exact ⟨before, after, hsplit, hreg⟩

end Traffic
end CredentialGateway.Token
