import CredentialGateway.Proofs.Gateway.Forwarded
import CredentialGateway.Proofs.Network.History

/-! What is left of a token that could not be had, and of one that cannot be used. A failed request leaves no valid token
and no flight, so that the next caller asks again; a token that forms no header value stays for its whole life. -/

namespace CredentialGateway

open Http

namespace Session

variable {r : Reach} {s s' : Session} {h h' : Headers} {key : TokenKey} {strategy : Strategy} {e : AuthorizationError}

structure Asks (s : Session) (key : TokenKey) : Prop where
  stale : ∀ millis, s.tokens.cached? (s.world.clock + millis) key = none
  idle : s.tokens.flight? key = none

theorem Asks.getToken (h : s.Asks key) (r : Reach) (secret : String) (millis : Nat) :
    Session.getToken r key secret (s.advance millis) = fetchToken r key ⟨s.tokens.opened, secret⟩
      { s.advance millis with tokens := s.tokens.openFlight key secret } := by
  have hstale : (s.advance millis).tokens.cached? (s.advance millis).world.clock key = none := h.stale millis
  have hidle : (s.advance millis).tokens.flight? key = none := h.idle
  rw [Session.getToken, hstale, TokenStore.enter, hidle, hstale]
  rfl

theorem asks_of_fetchToken {f : Flight} {failure : TokenError} (hf : s.tokens.flight? key = some f)
    (hstale : s.tokens.cached? s.world.clock key = none) (hfail : fetchToken r key f s = (.error failure, s')) :
    s'.Asks key := by
  have hclock := (Token.precedes_requestToken (n := r.network) r.tokenTimeout key.clientId f.clientSecret key.tokenUrl
    s.world).clock
  unfold fetchToken at hfail
  rcases hrequest : Token.requestToken r.network r.tokenTimeout key.clientId f.clientSecret key.tokenUrl s.world with
    ⟨e | a, world⟩
  · rw [hrequest] at hfail hclock
    cases hfail
    constructor
    · intro millis
      dsimp only at hclock ⊢
      rw [TokenStore.complete_eq_landed hf]
      exact TokenStore.cached?_eq_none_of_le (Nat.le_add_right_of_le hclock) hstale
    · dsimp only
      rw [TokenStore.complete_eq_landed hf, TokenStore.flight?_landed, if_pos rfl]
  · rw [hrequest] at hfail
    cases hfail

theorem asks_of_getToken {secret : String} {failure : TokenError}
    (hfail : Session.getToken r key secret s = (.error failure, s')) : s'.Asks key := by
  unfold Session.getToken at hfail
  split at hfail
  · cases hfail
  · rename_i hcached
    unfold TokenStore.enter at hfail
    rw [hcached] at hfail
    rcases hflight : s.tokens.flight? key with - | f
    · simp only [hflight] at hfail
      refine asks_of_fetchToken (s := { s with tokens := s.tokens.openFlight key secret }) ?_ hcached hfail
      rw [TokenStore.flight?_openFlight hflight, if_pos rfl]
    · simp only [hflight] at hfail
      exact asks_of_fetchToken hflight hcached hfail

theorem getToken_of_isValid {t : CachedToken} (ht : s.tokens.token? key = some t)
    (hvalid : t.isValid s.world.clock = true) (r : Reach) (secret : String) :
    Session.getToken r key secret s = (.ok t.token, s) := by
  have hcached : s.tokens.cached? s.world.clock key = some t.token := by
    rw [TokenStore.cached?, ht, Option.filter_some, if_pos hvalid]
    rfl
  rw [Session.getToken, hcached]

theorem exists_of_mapError {α ε ε' : Type} {x : Except ε α} {f : ε → ε'} {e : ε'} (h : x.mapError f = .error e) :
    ∃ failure, e = f failure := by
  cases x with
  | error failure =>
    cases h
    exact ⟨failure, rfl⟩
  | ok a => cases h

theorem setMechanism_of_setup (hfail : setup r strategy h s = ((h', .error e), s')) :
    setMechanism r strategy.mechanism h s = ((h', .error e), s') ∨ ∃ failure, e = .csrf failure := by
  unfold setup at hfail
  split at hfail
  · rename_i hmechanism
    cases hfail
    exact .inl hmechanism
  · split at hfail
    · cases hfail
    · right
      unfold shakeHands at hfail
      split at hfail
      · cases hfail
        exact ⟨_, rfl⟩
      · dsimp only at hfail
        obtain ⟨hpair, -⟩ := Prod.mk.inj hfail
        obtain ⟨-, hresult⟩ := Prod.mk.inj hpair
        exact exists_of_mapError hresult

/-- After a setup that failed for want of a token, no valid token and no flight are left for the key, and whenever the
next caller comes, it asks the endpoint. If the token formed no header value it is the one in the store, and each setup
fails by it in the same way for as long as it is valid, without anything sent. -/
theorem failed_setup_asks_again (r : Reach) (strategy : Strategy) (clientId secret url : String) (h h' : Headers)
    (s s' : Session) (e : AuthorizationError) (hstrategy : strategy.mechanism = .oauth clientId secret url)
    (hfail : setup r strategy h s = ((h', .error e), s')) :
    (∀ failure, e = .token failure → s'.tokens.cached? s'.world.clock ⟨clientId, url⟩ = none ∧ ∀ millis,
        Session.getToken r ⟨clientId, url⟩ secret (s'.advance millis) =
          fetchToken r ⟨clientId, url⟩ ⟨s'.tokens.opened, secret⟩
            { s'.advance millis with tokens := s'.tokens.openFlight ⟨clientId, url⟩ secret }) ∧
      (e = .invalidHeader → ∃ t, s'.tokens.token? ⟨clientId, url⟩ = some t ∧ bearerValue? t.token = none ∧
        ∀ millis next, t.isValid (s'.world.clock + millis) = true →
          setup r strategy next (s'.advance millis) = ((next, .error .invalidHeader), s'.advance millis)) := by
  rcases setMechanism_of_setup hfail with hmechanism | ⟨failure, rfl⟩
  · rw [hstrategy] at hmechanism
    simp only [setMechanism] at hmechanism
    split at hmechanism
    · rename_i failure s₁ hget
      cases hmechanism
      constructor
      · rintro _ -
        have hasks := asks_of_getToken hget
        exact ⟨hasks.stale 0, fun millis => hasks.getToken r secret millis⟩
      · rintro ⟨⟩
    · rename_i token s₁ hget
      split at hmechanism
      · rename_i hvalue
        cases hmechanism
        constructor
        · rintro _ ⟨⟩
        rintro -
        -- The token is in the store whether or not it can be written.
        obtain ⟨t, ht, rfl⟩ := token?_of_getToken hget
        refine ⟨t, ht, hvalue, fun millis next hvalid => ?_⟩
        have hagain : Session.getToken r ⟨clientId, url⟩ secret (s'.advance millis) = (.ok t.token, s'.advance millis) :=
          getToken_of_isValid (s := s'.advance millis) ht hvalid r secret
        simp only [setup, hstrategy, setMechanism, hagain, hvalue]
      · cases hmechanism
  · constructor
    · rintro _ ⟨⟩
    · rintro ⟨⟩

end Session

namespace Kiosk

def strategy : Strategy := ⟨.oauth "kiosk" "a" "http://[::1]/token", none⟩

def key : TokenKey := ⟨"kiosk", "http://[::1]/token"⟩

def reach (token : String) : Reach where
  network :=
    { connects := fun _ => true
      reply := fun _ _ => ⟨200, .empty,
        Bytes.ofText ("\x7b\x22access_token\x22:\x22" ++ token ++ "\x22,\x22expires_in\x22:3600\x7d"), 0, false, none⟩ }
  tokenTimeout := 1000

def first (r : Reach) : (Headers × Except AuthorizationError Unit) × Session :=
  Session.setup r strategy .empty .start

end Kiosk

section Kiosk
open Kiosk

/-- The client of the endpoint refuses an empty token. -/
theorem empty_token_asks_again :
    let s' := (first (reach "")).2
    (first (reach "")).1.2 = .error (.token (.malformed key.tokenUrl "empty access_token")) ∧
      s'.tokens.cached? s'.world.clock key = none := by
  intro s'
  have he : (first (reach "")).1.2 = .error (.token (.malformed key.tokenUrl "empty access_token")) := by
    decide +kernel
  have hfail : Session.setup (reach "") strategy .empty .start = (((first (reach "")).1.1, .error _), s') :=
    Prod.ext (Prod.ext rfl he) rfl
  obtain ⟨hasks, -⟩ := Session.failed_setup_asks_again (reach "") strategy key.clientId "a" key.tokenUrl .empty _ .start
    s' _ rfl hfail
  exact ⟨he, (hasks _ rfl).1⟩

/-- A token with a line break is kept for its hour, and the next setup fails by it with nothing sent. -/
theorem broken_token_is_kept :
    let s' := (first (reach "a\\nb")).2
    (first (reach "a\\nb")).1.2 = .error .invalidHeader ∧ s'.tokens.cached? s'.world.clock key = some "a\nb" ∧
      (Session.setup (reach "a\\nb") strategy .empty s').1.2 = .error .invalidHeader ∧
      (Session.setup (reach "a\\nb") strategy .empty s').2.world = s'.world := by
  decide +kernel

end Kiosk

end CredentialGateway
