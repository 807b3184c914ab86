import CredentialGateway.Proofs.Csrf
import CredentialGateway.Proofs.Gateway.Kept
import CredentialGateway.Proofs.Gateway.Unusable

/-! The secrets that a session holds for a strategy. Once they have been dropped, the endpoints are asked for new ones,
and these stay until they expire or are dropped again. -/

namespace CredentialGateway

open Http

def Mechanism.key? : Mechanism → Option TokenKey
  | oauth clientId _ tokenUrl => some ⟨clientId, tokenUrl⟩
  | none | basic .. => Option.none

/-- What one strategy drops can be of use to the other: they are of one client, or of one endpoint for CSRF tokens. -/
def Strategy.Shares (a b : Strategy) : Prop :=
  (∃ k k', a.mechanism.key? = some k ∧ b.mechanism.key? = some k' ∧ k.clientId = k'.clientId) ∨
    ∃ url, a.csrf = some url ∧ b.csrf = some url

def CachedToken.GrantedBetween (r : Reach) (key : TokenKey) (secret : String) (w w' : World) (t : CachedToken) : Prop :=
  ∃ before answer after, w.Precedes before ∧
    Token.requestToken r.network r.tokenTimeout key.clientId secret key.tokenUrl before = (.ok answer, after) ∧
      after.Precedes w' ∧ t = .ofAnswer answer after.clock

def CsrfToken.HandedOutBetween (r : Reach) (url : String) (w w' : World) (t : CsrfToken) : Prop :=
  ∃ authorization before response after, w.Precedes before ∧
    Call.request r.network r.tokenTimeout .get url (Session.csrfHeaders authorization) [] before = (.ok response, after) ∧
      isSuccess response.status = true ∧ CsrfToken.ofHeaders? response.headers = some t ∧ after.Precedes w'

structure Secrets where
  bearer : Option CachedToken
  csrf : Option CsrfToken

namespace Secrets

/-- The secrets of a strategy have been asked for after `w` and were there before `w'`. -/
structure Renewed (r : Reach) (strategy : Strategy) (w w' : World) (secrets : Secrets) : Prop where
  bearer : ∀ clientId secret url, strategy.mechanism = .oauth clientId secret url →
    ∃ t, secrets.bearer = some t ∧ t.GrantedBetween r ⟨clientId, url⟩ secret w w'
  csrf : ∀ url, strategy.csrf = some url → ∃ t, secrets.csrf = some t ∧ t.HandedOutBetween r url w w'

structure WrittenOn (secrets : Secrets) (before after : Headers) : Prop where
  bearer : ∀ t, secrets.bearer = some t →
    ∃ v, Session.bearerValue? t.token = some v ∧ after.all .authorization = [v]
  csrf : CsrfWritten before after secrets.csrf

def IsValid (secrets : Secrets) (now : Nat) : Prop := ∀ t, secrets.bearer = some t → t.isValid now = true

end Secrets

namespace Session

theorem reset_eq (strategy : Strategy) (s : Session) :
    s.reset strategy =
      { s with
        tokens := strategy.mechanism.key?.elim s.tokens fun key => s.tokens.invalidate key.clientId
        csrf := strategy.csrf.elim s.csrf s.csrf.erase } := by
  unfold reset
  cases strategy.mechanism <;> cases strategy.csrf <;> rfl

theorem token?_reset_self {strategy : Strategy} {key : TokenKey} (h : strategy.mechanism.key? = some key) (s : Session) :
    (s.reset strategy).tokens.token? key = none := by
  rw [reset_eq, h, Option.elim_some, TokenStore.invalidate, TokenStore.token?_forget, if_pos rfl]

theorem token?_reset_of_ne {strategy : Strategy} {key : TokenKey}
    (h : ∀ k, strategy.mechanism.key? = some k → k.clientId ≠ key.clientId) (s : Session) :
    (s.reset strategy).tokens.token? key = s.tokens.token? key := by
  rw [reset_eq]
  cases hkey : strategy.mechanism.key? with
  | none => rfl
  | some k =>
    rw [Option.elim_some, TokenStore.invalidate, TokenStore.token?_forget, if_neg (h k hkey).symm,
      TokenStore.token?_detach]

theorem csrf_reset (strategy : Strategy) (s : Session) (url : String) :
    (s.reset strategy).csrf.get? url = if strategy.csrf = some url then none else s.csrf.get? url := by
  rw [reset_eq]
  cases strategy.csrf with
  | none => simp
  | some other => simp [CsrfStore.get?_erase, eq_comm]

def secrets (strategy : Strategy) (s : Session) : Secrets :=
  ⟨strategy.mechanism.key?.bind s.tokens.token?, strategy.csrf.bind s.csrf.get?⟩

def Idle (s : Session) : Prop := s.tokens.inFlight = []

variable {r : Reach} {strategy : Strategy} {s s' : Session} {key : TokenKey} {secret : String} {h h' : Headers}

structure Fetched (r : Reach) (key : TokenKey) (secret : String) (s : Session)
    (result : Except TokenError String × Session) : Prop where
  stale : s.tokens.cached? s.world.clock key = none
  answer : ∃ answer, Token.requestToken r.network r.tokenTimeout key.clientId secret key.tokenUrl s.world =
      (answer, result.2.world) ∧ result.1 = answer.map TokenAnswer.accessToken ∧
        result.2.tokens = (s.tokens.openFlight key secret).landed result.2.world.clock key answer
  csrf : result.2.csrf = s.csrf

theorem Idle.flight? (h : s.Idle) (key : TokenKey) : s.tokens.flight? key = none := by
  rw [TokenStore.flight?, h]
  rfl

theorem Idle.landed (h : s.Idle) (key : TokenKey) (secret : String) (now : Nat)
    (answer : Except TokenError TokenAnswer) :
    ((s.tokens.openFlight key secret).landed now key answer).inFlight = [] := by
  have hremoved : ((s.tokens.openFlight key secret).removeFlight key).inFlight = [] := by
    simp [TokenStore.removeFlight, TokenStore.openFlight, show s.tokens.inFlight = [] from h]
  cases answer with
  | error e => exact hremoved
  | ok a => exact hremoved

theorem Idle.getToken (h : s.Idle) (r : Reach) (key : TokenKey) (secret : String) :
    (∃ t, s.tokens.token? key = some t ∧ t.isValid s.world.clock = true ∧
        Session.getToken r key secret s = (.ok t.token, s)) ∨
      Fetched r key secret s (Session.getToken r key secret s) := by
  rcases hcached : s.tokens.cached? s.world.clock key with - | token
  -- There is no flight to join, so the caller opens one and lands it before anyone else acts.
  · right
    have hasks : s.Asks key := ⟨fun millis => TokenStore.cached?_eq_none_of_le (Nat.le_add_right _ _) hcached, h.flight? key⟩
    have hget := hasks.getToken r secret 0
    have hnow : s.advance 0 = s := rfl
    rw [hnow] at hget
    have hopened : (s.tokens.openFlight key secret).flight? key = some ⟨s.tokens.opened, secret⟩ := by
      rw [TokenStore.flight?_openFlight (h.flight? key), if_pos rfl]
    rw [hget]
    refine ⟨hcached, ⟨_, rfl, rfl, ?_⟩, rfl⟩
    exact TokenStore.complete_eq_landed hopened _ _
  · left
    obtain ⟨t, ht, hvalid, -⟩ := TokenStore.token?_eq_some_of_cached? hcached
    exact ⟨t, ht, hvalid, getToken_of_isValid ht hvalid r secret⟩

theorem kept_idle (r : Reach) : Kept r (fun _ => True) Idle where
  untouched s t huntouched h := by
    rw [Idle, huntouched.tokens]
    exact h
  later _ _ _ h := h
  getToken key secret s h := by
    rcases h.getToken r key secret with ⟨t, -, -, hget⟩ | ⟨-, ⟨answer, -, -, htokens⟩, -⟩
    · rwa [hget]
    · rw [Idle, htokens]
      exact h.landed key secret _ answer
  getCsrfToken url authorization s h := by
    rcases getCsrfToken_cases r url authorization s with ⟨t, -, hget⟩ | hshaken
    · rwa [hget]
    · rw [Idle, hshaken.tokens]
      exact h
  reset strategy s _ h := by
    have hempty : s.tokens.inFlight = [] := h
    unfold Session.reset
    split <;> split <;> simp [Idle, TokenStore.invalidate, TokenStore.detach, TokenStore.forget, hempty]

/-- The session has these secrets for a strategy, the bearer token for as long as it is valid. -/
structure Holds (strategy : Strategy) (secrets : Secrets) (s : Session) : Prop where
  idle : s.Idle
  bearer : ∀ key t, strategy.mechanism.key? = some key → secrets.bearer = some t → t.isValid s.world.clock = true →
    s.tokens.token? key = some t
  csrf : ∀ url t, strategy.csrf = some url → secrets.csrf = some t → s.csrf.get? url = some t

theorem holds_secrets (h : s.Idle) : Holds strategy (s.secrets strategy) s := by
  refine ⟨h, fun key t hkey ht _ => ?_, fun url t hurl ht => ?_⟩
  · rwa [secrets, hkey, Option.bind_some] at ht
  · rwa [secrets, hurl, Option.bind_some] at ht

theorem kept_holds (r : Reach) (strategy : Strategy) (secrets : Secrets) :
    Kept r (fun other => ¬ other.Shares strategy) (Holds strategy secrets) where
  untouched s t huntouched h := by
    obtain ⟨hworld, htokens, hcsrf⟩ := huntouched
    refine ⟨(kept_idle r).untouched s t ⟨hworld, htokens, hcsrf⟩ h.idle, ?_, ?_⟩
    · rw [hworld, htokens]
      exact h.bearer
    · rw [hcsrf]
      exact h.csrf
  later s w hw h :=
    ⟨h.idle, fun key t hkey ht hvalid => h.bearer key t hkey ht (CachedToken.isValid_of_le hw.clock hvalid), h.csrf⟩
  getToken key secret s h := by
    have hidle := (kept_idle r).getToken key secret s h.idle
    rcases h.idle.getToken r key secret with ⟨t, -, -, hget⟩ | ⟨hstale, ⟨answer, hanswer, -, htokens⟩, hcsrf⟩
    · rwa [hget]
    · have hclock := (Token.precedes_requestToken (n := r.network) r.tokenTimeout key.clientId secret key.tokenUrl
        s.world).clock
      rw [hanswer] at hclock
      refine ⟨hidle, fun key' t hkey ht hvalid => ?_, by rw [hcsrf]; exact h.csrf⟩
      have hbefore := h.bearer key' t hkey ht (CachedToken.isValid_of_le hclock hvalid)
      -- A token that is still valid has not been asked for again.
      have hne : key' ≠ key := by
        rintro rfl
        have hinvalid := TokenStore.not_isValid_of_cached?_eq_none hstale hbefore
        rw [CachedToken.isValid_of_le hclock hvalid] at hinvalid
        cases hinvalid
      rw [htokens, TokenStore.token?_landed_of_ne _ _ _ hne, TokenStore.token?_openFlight]
      exact hbefore
  getCsrfToken url authorization s h := by
    have hidle := (kept_idle r).getCsrfToken url authorization s h.idle
    rcases getCsrfToken_cases r url authorization s with ⟨t, -, hget⟩ | ⟨habsent, hworld, htokens, hanswer⟩
    · rwa [hget]
    · refine ⟨hidle, fun key t hkey ht hvalid => ?_, fun url' t hurl ht => ?_⟩
      · rw [htokens]
        exact h.bearer key t hkey ht (CachedToken.isValid_of_le hworld.clock hvalid)
      · have hbefore := h.csrf url' t hurl ht
        rcases hanswer with ⟨e, -, hcsrf⟩ | ⟨response, new, -, -, -, -, hcsrf⟩
        · rwa [hcsrf]
        -- The store gains a token only for an endpoint that had none.
        · have hne : url' ≠ url := by
            rintro rfl
            rw [habsent] at hbefore
            cases hbefore
          rwa [hcsrf, CsrfStore.get?_insert, if_neg hne]
  reset other s hother h := by
    refine ⟨(kept_idle r).reset other s trivial h.idle, fun key t hkey ht hvalid => ?_, fun url t hurl ht => ?_⟩
    · have hclock : (s.reset other).world = s.world := world_reset other s
      rw [token?_reset_of_ne fun key' hkey' hclient => hother (.inl ⟨key', key, hkey', hkey, hclient⟩)]
      exact h.bearer key t hkey ht (hclock ▸ hvalid)
    · rw [csrf_reset, if_neg fun hsame => hother (.inr ⟨url, hsame, hurl⟩)]
      exact h.csrf url t hurl ht

end Session
end CredentialGateway
