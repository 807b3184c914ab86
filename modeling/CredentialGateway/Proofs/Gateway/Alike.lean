import CredentialGateway.Gateway.Dispatch
import CredentialGateway.Proofs.Http.FieldText

/-! Sessions that agree but for their metrics. Nothing that is done in a session depends on what was recorded, so alike
sessions give the same results and stay alike. -/

namespace CredentialGateway

open Http

structure Session.Alike (s t : Session) : Prop where
  world : s.world = t.world
  tokens : s.tokens = t.tokens
  csrf : s.csrf = t.csrf
  attempts : s.attempts = t.attempts

def Oblivious {α : Type} (act : Session → α × Session) : Prop :=
  ∀ s t : Session, s.Alike t → (act s).1 = (act t).1 ∧ (act s).2.Alike (act t).2

theorem Oblivious.pairs {α : Type} {act : Session → α × Session} (h : Oblivious act) {s t : Session}
    (hst : s.Alike t) : ∃ a s' t', act s = (a, s') ∧ act t = (a, t') ∧ s'.Alike t' := by
  obtain ⟨hresult, hafter⟩ := h s t hst
  exact ⟨(act s).1, (act s).2, (act t).2, rfl, Prod.ext hresult.symm rfl, hafter⟩

namespace Session

theorem Alike.eq {s t : Session} (h : s.Alike t) : t = { s with metrics := t.metrics } := by
  obtain ⟨world, tokens, csrf, attempts, metrics⟩ := t
  obtain ⟨rfl, rfl, rfl, rfl⟩ := h
  rfl

theorem Alike.record_left {s t : Session} (h : s.Alike t) (m : Metric) : (s.record m).Alike t :=
  ⟨h.world, h.tokens, h.csrf, h.attempts⟩

theorem Alike.record_right {s t : Session} (h : s.Alike t) (m : Metric) : s.Alike (t.record m) :=
  ⟨h.world, h.tokens, h.csrf, h.attempts⟩

theorem oblivious_fetchToken (r : Reach) (key : TokenKey) (f : Flight) : Oblivious (fetchToken r key f) := by
  intro s t h
  rw [h.eq]
  exact ⟨rfl, rfl, rfl, rfl, rfl⟩

theorem oblivious_getToken (r : Reach) (key : TokenKey) (secret : String) : Oblivious (getToken r key secret) := by
  intro s t h
  rw [h.eq]
  simp only [getToken]
  split
  · exact ⟨rfl, rfl, rfl, rfl, rfl⟩
  · split
    · exact ⟨rfl, rfl, rfl, rfl, rfl⟩
    · exact oblivious_fetchToken r key _ _ _ ⟨rfl, rfl, rfl, rfl⟩
    · exact oblivious_fetchToken r key _ _ _ ⟨rfl, rfl, rfl, rfl⟩

theorem oblivious_getCsrfToken (r : Reach) (url : String) (authorization : Option HeaderValue) :
    Oblivious (getCsrfToken r url authorization) := by
  intro s t h
  rw [h.eq]
  simp only [getCsrfToken]
  split
  · exact ⟨rfl, rfl, rfl, rfl, rfl⟩
  · split
    · exact ⟨rfl, rfl, rfl, rfl, rfl⟩
    · split
      · exact ⟨rfl, rfl, rfl, rfl, rfl⟩
      · split <;> exact ⟨rfl, rfl, rfl, rfl, rfl⟩

theorem oblivious_setMechanism (r : Reach) (m : Mechanism) (h : Headers) : Oblivious (setMechanism r m h) := by
  intro s t hst
  cases m with
  | none => exact ⟨rfl, hst⟩
  | basic username password =>
    rw [setMechanism_basic, setMechanism_basic]
    exact ⟨rfl, hst⟩
  | oauth clientId clientSecret tokenUrl =>
    unfold setMechanism
    dsimp only
    obtain ⟨answer, s', t', hs, ht, hafter⟩ := (oblivious_getToken r ⟨clientId, tokenUrl⟩ clientSecret).pairs hst
    rw [hs, ht]
    rcases answer with e | token
    · exact ⟨rfl, hafter⟩
    · dsimp only
      split <;> exact ⟨rfl, hafter⟩

theorem oblivious_shakeHands (r : Reach) (url : String) (h : Headers) : Oblivious (shakeHands r url h) := by
  intro s t hst
  unfold shakeHands
  obtain ⟨answer, s', t', hs, ht, hafter⟩ := (oblivious_getCsrfToken r url (h.get? .authorization)).pairs hst
  rw [hs, ht]
  rcases answer with e | token <;> exact ⟨rfl, hafter⟩

theorem oblivious_setup (r : Reach) (strategy : Strategy) (h : Headers) : Oblivious (setup r strategy h) := by
  intro s t hst
  unfold setup
  obtain ⟨⟨h', answer⟩, s', t', hs, ht, hafter⟩ := (oblivious_setMechanism r strategy.mechanism h).pairs hst
  rw [hs, ht]
  rcases answer with e | done
  · exact ⟨rfl, hafter⟩
  · dsimp only
    split
    · exact ⟨rfl, hafter⟩
    · exact oblivious_shakeHands r _ h' s' t' hafter

theorem Alike.reset {s t : Session} (h : s.Alike t) (strategy : Strategy) :
    (s.reset strategy).Alike (t.reset strategy) := by
  rw [h.eq]
  unfold Session.reset
  split <;> split <;> exact ⟨rfl, rfl, rfl, rfl⟩

end Session

namespace Gateway

theorem oblivious_authorize (g : Gateway) (e : CacheEntry) (o : Outbound) : Oblivious (g.authorize e o) := by
  intro s t hst
  unfold authorize
  split
  · exact ⟨rfl, hst⟩
  · obtain ⟨⟨h, answer⟩, s', t', hs, ht, hafter⟩ :=
      (Session.oblivious_setup g.toReach e.strategy o.headers).pairs hst
    rw [hs, ht]
    rcases answer with e | done <;> exact ⟨rfl, hafter⟩

theorem oblivious_sendAttempt (g : Gateway) (e : CacheEntry) (o : Outbound) (h : Headers) :
    Oblivious (g.sendAttempt e o h) := by
  intro s t hst
  rw [hst.eq]
  exact ⟨rfl, rfl, rfl, rfl, rfl⟩

theorem oblivious_attempt (g : Gateway) (e : CacheEntry) (o : Outbound) : Oblivious (g.attempt e o) := by
  intro s t hst
  unfold attempt
  obtain ⟨answer, s', t', hs, ht, hafter⟩ := (oblivious_authorize g e o).pairs hst
  rw [hs, ht]
  rcases answer with e | h
  · exact ⟨rfl, hafter⟩
  · exact oblivious_sendAttempt g _ o h s' t' hafter

end Gateway
end CredentialGateway
