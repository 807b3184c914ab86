import CredentialGateway.Proofs.Http.FieldText
import CredentialGateway.Proofs.Http.Header
import CredentialGateway.Proofs.Keyed

/-! What authorization does: it makes no attempts, and writes only the headers that are its own. -/

namespace CredentialGateway

open Http Keyed

def CsrfWritten (before after : Headers) : Option CsrfToken → Prop
  | none => after.all .csrfToken = before.all .csrfToken ∧ after.all .cookie = before.all .cookie
  | some t => ∃ token, HeaderValue.ofText? t.token = some token ∧ after.all .csrfToken = [token] ∧
      if t.cookies = [] then after.all .cookie = before.all .cookie
      else ∃ v, HeaderValue.ofText? ("; ".intercalate (CsrfToken.callerCookies before ++ t.cookies)) = some v ∧
        after.all .cookie = [v]

def AgreesButCredentials (before after : Headers) : Prop :=
  ∀ n, n ≠ .authorization → n ≠ .csrfToken → n ≠ .cookie → after.all n = before.all n

theorem callerCookies_congr {h h' : Headers} (hc : h'.all .cookie = h.all .cookie) :
    CsrfToken.callerCookies h' = CsrfToken.callerCookies h := by
  simp only [CsrfToken.callerCookies, hc]

theorem CsrfWritten.congr_left {before before' after : Headers} {t : Option CsrfToken}
    (h : CsrfWritten before after t) (hcsrf : before.all .csrfToken = before'.all .csrfToken)
    (hcookie : before.all .cookie = before'.all .cookie) : CsrfWritten before' after t := by
  cases t with
  | none => exact ⟨h.1.trans hcsrf, h.2.trans hcookie⟩
  | some t =>
    obtain ⟨token, htoken, hall, hcookies⟩ := h
    refine ⟨token, htoken, hall, ?_⟩
    rw [← hcookie, ← callerCookies_congr hcookie]
    exact hcookies

theorem CsrfWritten.congr_right {before after after' : Headers} {t : Option CsrfToken}
    (h : CsrfWritten before after t) (hcsrf : after'.all .csrfToken = after.all .csrfToken)
    (hcookie : after'.all .cookie = after.all .cookie) : CsrfWritten before after' t := by
  cases t with
  | none => exact ⟨hcsrf.trans h.1, hcookie.trans h.2⟩
  | some t =>
    obtain ⟨token, htoken, hall, hcookies⟩ := h
    refine ⟨token, htoken, hcsrf.trans hall, ?_⟩
    rw [hcookie]
    exact hcookies

theorem apply_spec {t : CsrfToken} {h after : Headers} (hok : t.apply h = (after, .ok ())) :
    AgreesButCredentials h after ∧ CsrfWritten h after (some t) := by
  unfold CsrfToken.apply at hok
  split at hok
  · cases hok
  · rename_i token htoken
    have hset : (h.set .csrfToken token).all .cookie = h.all .cookie := Headers.all_set_of_ne h token (by decide)
    split at hok
    · rename_i hcookies
      obtain ⟨rfl, -⟩ := Prod.mk.inj hok
      refine ⟨fun n _ hn _ => Headers.all_set_of_ne h token hn, token, htoken, Headers.all_set_self h _ token, ?_⟩
      rw [if_pos hcookies]
      exact hset
    · rename_i hcookies
      dsimp only at hok
      split at hok
      · cases hok
      · rename_i v hv
        obtain ⟨rfl, -⟩ := Prod.mk.inj hok
        refine ⟨fun n _ hn hc => ?_, token, htoken, ?_, ?_⟩
        · rw [Headers.all_set_of_ne _ v hc, Headers.all_set_of_ne h token hn]
        · rw [Headers.all_set_of_ne _ v (by decide), Headers.all_set_self]
        · rw [if_neg hcookies, Headers.all_set_self, ← callerCookies_congr hset]
          exact ⟨v, hv, rfl⟩

namespace CsrfStore

theorem get?_erase (c : CsrfStore) (other url : String) :
    (c.erase other).get? url = if url = other then none else c.get? url := by
  rw [get?, erase, find?_filter_key c.entries (fun k => k != other)]
  by_cases h : url = other <;> simp [h, get?]

theorem get?_insert (c : CsrfStore) (other : String) (t : CsrfToken) (url : String) :
    (c.insert other t).get? url = if url = other then some t else c.get? url := by
  have hnone : (c.erase other).entries.find? (fun e => e.1 == other) = none := by
    rw [erase, find?_filter_key c.entries (fun k => k != other)]
    simp
  have herased := get?_erase c other url
  rw [get?] at herased
  rw [get?, insert, find?_append_key hnone]
  by_cases h : url = other
  · simp [h]
  · rw [if_neg h, if_neg h, herased, if_neg h]

end CsrfStore

namespace Session

variable {r : Reach} {s s' : Session} {h h' : Headers}

theorem attempts_getToken (r : Reach) (key : TokenKey) (clientSecret : String) (s : Session) :
    (getToken r key clientSecret s).2.attempts = s.attempts := by
  unfold getToken
  split
  · rfl
  · split <;> rfl

theorem attempts_getCsrfToken (r : Reach) (url : String) (authorization : Option HeaderValue) (s : Session) :
    (getCsrfToken r url authorization s).2.attempts = s.attempts := by
  unfold getCsrfToken
  split
  · rfl
  · split
    · rfl
    · split
      · rfl
      · split <;> rfl

theorem get?_of_getCsrfToken {url : String} {authorization : Option HeaderValue} {t : CsrfToken}
    (hok : getCsrfToken r url authorization s = (.ok t, s')) : s'.csrf.get? url = some t := by
  unfold getCsrfToken at hok
  split at hok
  · rename_i hget
    cases hok
    exact hget
  · split at hok
    · cases hok
    · split at hok
      · cases hok
      · split at hok
        · cases hok
        · cases hok
          exact (CsrfStore.get?_insert _ url t url).trans (if_pos rfl)

theorem session_setMechanism (r : Reach) (m : Mechanism) (h : Headers) (s : Session) :
    (setMechanism r m h s).2 = s ∨ ∃ clientId secret url, m = .oauth clientId secret url ∧
      (setMechanism r m h s).2 = (getToken r ⟨clientId, url⟩ secret s).2 := by
  cases m with
  | none => exact .inl rfl
  | basic username password => exact .inl (by rw [setMechanism_basic])
  | oauth clientId secret url =>
    unfold setMechanism
    dsimp only
    refine .inr ⟨clientId, secret, url, rfl, ?_⟩
    split
    · rename_i heq
      rw [heq]
    · rename_i heq
      rw [heq]
      split <;> rfl

theorem session_shakeHands (r : Reach) (url : String) (h : Headers) (s : Session) :
    (shakeHands r url h s).2 = (getCsrfToken r url (h.get? .authorization) s).2 := by
  unfold shakeHands
  split
  · rename_i heq
    rw [heq]
  · rename_i heq
    rw [heq]

theorem session_setup (r : Reach) (strategy : Strategy) (h : Headers) (s : Session) :
    (setup r strategy h s).2 = (setMechanism r strategy.mechanism h s).2 ∨
      ∃ url authorization, strategy.csrf = some url ∧
        (setup r strategy h s).2 = (getCsrfToken r url authorization (setMechanism r strategy.mechanism h s).2).2 := by
  unfold setup
  split
  · rename_i heq
    rw [heq]
    exact .inl rfl
  · rename_i h' s' heq
    rw [heq]
    split
    · exact .inl rfl
    · rename_i url hurl
      exact .inr ⟨url, h'.get? .authorization, hurl, session_shakeHands r url h' s'⟩

theorem attempts_setMechanism (r : Reach) (m : Mechanism) (h : Headers) (s : Session) :
    (setMechanism r m h s).2.attempts = s.attempts := by
  obtain hsame | ⟨clientId, secret, url, -, hget⟩ := session_setMechanism r m h s
  · rw [hsame]
  · rw [hget, attempts_getToken]

theorem setMechanism_spec {m : Mechanism} {result : Except AuthorizationError Unit}
    (hok : setMechanism r m h s = ((h', result), s')) {n : HeaderName} (hn : n ≠ .authorization) :
    h'.all n = h.all n := by
  cases m with
  | none =>
    cases hok
    rfl
  | basic username password =>
    rw [setMechanism_basic] at hok
    cases hok
    exact Headers.all_set_of_ne h _ hn
  | oauth clientId secret url =>
    unfold setMechanism at hok
    dsimp only at hok
    split at hok
    · cases hok
      rfl
    · split at hok
      · cases hok
        rfl
      · cases hok
        exact Headers.all_set_of_ne h _ hn

theorem shakeHands_spec {url : String} (hok : shakeHands r url h s = ((h', .ok ()), s')) :
    ∃ t, s'.csrf.get? url = some t ∧ AgreesButCredentials h h' ∧ CsrfWritten h h' (some t) := by
  unfold shakeHands at hok
  split at hok
  · cases hok
  · rename_i t s₁ heq
    rcases happly : t.apply h with ⟨after, e | u⟩
    · rw [happly] at hok
      cases hok
    · rw [happly] at hok
      cases hok
      exact ⟨t, get?_of_getCsrfToken heq, apply_spec happly⟩

theorem attempts_setup (r : Reach) (strategy : Strategy) (h : Headers) (s : Session) :
    (setup r strategy h s).2.attempts = s.attempts := by
  have hmechanism := attempts_setMechanism r strategy.mechanism h s
  obtain hsame | ⟨url, authorization, -, hget⟩ := session_setup r strategy h s
  · rw [hsame, hmechanism]
  · rw [hget, attempts_getCsrfToken, hmechanism]

theorem setup_spec {strategy : Strategy} (hok : setup r strategy h s = ((h', .ok ()), s')) :
    AgreesButCredentials h h' ∧ CsrfWritten h h' (strategy.csrf.bind s'.csrf.get?) := by
  unfold setup at hok
  split at hok
  · cases hok
  · rename_i h₁ s₁ heq
    have hmechanism {n : HeaderName} (hn : n ≠ .authorization) := setMechanism_spec heq hn
    split at hok
    · rename_i hnone
      cases hok
      rw [hnone]
      exact ⟨fun n hn _ _ => hmechanism hn, hmechanism (by decide), hmechanism (by decide)⟩
    · rename_i url hurl
      obtain ⟨t, hget, hagree, hwritten⟩ := shakeHands_spec hok
      rw [hurl, Option.bind_some, hget]
      refine ⟨fun n ha hc hk => (hagree n ha hc hk).trans (hmechanism ha), ?_⟩
      exact hwritten.congr_left (hmechanism (by decide)) (hmechanism (by decide))

theorem attempts_reset (strategy : Strategy) (s : Session) : (reset strategy s).attempts = s.attempts := by
  unfold reset
  split <;> split <;> rfl

end Session
end CredentialGateway
