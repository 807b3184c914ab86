import CredentialGateway.Proofs.Gateway.Attempt
import CredentialGateway.Proofs.Http.FieldText
import CredentialGateway.Proofs.Network.Veil
import CredentialGateway.Proofs.Token.Store

/-! Sessions that authorize and send in step although their strategies hold other secrets. A veil says what may differ:
it is drawn over requests, calls and headers, and the credentials behind it must not come out from under it. -/

namespace CredentialGateway

open Http

/-- What may differ between two gateways. -/
structure Veil where
  sent : Sent → Sent → Prop
  call : Call → Call → Prop
  headers : Headers → Headers → Prop
  definition : ServiceDefinition → ServiceDefinition → Prop

namespace Veil

inductive Mechanisms (v : Veil) : Mechanism → Mechanism → Prop
  | none : v.Mechanisms .none .none
  | basic {username password password' : String}
    (hset : ∀ h k, v.headers h k →
      v.headers (h.set .authorization (Call.basicValue username password))
        (k.set .authorization (Call.basicValue username password'))) :
    v.Mechanisms (.basic username password) (.basic username password')
  | oauth {clientId secret secret' tokenUrl : String}
    (hasked : ∀ u, Url.parse tokenUrl = .ok u →
      v.call (.initial .post u Token.requestHeaders (Token.requestBody clientId secret))
        (.initial .post u Token.requestHeaders (Token.requestBody clientId secret'))) :
    v.Mechanisms (.oauth clientId secret tokenUrl) (.oauth clientId secret' tokenUrl)

structure Strategies (v : Veil) (x y : Strategy) : Prop where
  mechanism : v.Mechanisms x.mechanism y.mechanism
  csrf : x.csrf = y.csrf

/-- The veil covers all that gateways on a network do with what is behind it. -/
structure Covers (v : Veil) (n : Network) : Prop extends n.Conceals v.sent v.call where
  same : ∀ h, v.headers h h
  overwritten : ∀ h k value, v.headers h k → v.headers (h.set .authorization value) (k.set .authorization value)
  handshake : ∀ h k u, v.headers h k →
    v.call (.initial .get u (Session.csrfHeaders (h.get? .authorization)) [])
      (.initial .get u (Session.csrfHeaders (k.get? .authorization)) [])
  applied : ∀ (t : CsrfToken) h k, v.headers h k → v.headers (t.apply h).1 (t.apply k).1 ∧ (t.apply h).2 = (t.apply k).2
  attempt : ∀ (a b : CacheEntry) o h k, a.target = b.target → v.headers h k →
    v.call (Gateway.callOf a o h) (Gateway.callOf b o k)
  defined : ∀ d e, v.definition d e →
    d.targetUrl = e.targetUrl ∧ v.Strategies (.ofCredentials d.credentials) (.ofCredentials e.credentials)

structure Entries (v : Veil) (a b : CacheEntry) : Prop where
  service : a.service = b.service
  target : a.target = b.target
  strategy : v.Strategies a.strategy b.strategy
  created : a.created = b.created
  serial : a.serial = b.serial

end Veil

structure Session.Agree (S : Sent → Sent → Prop) (s t : Session) : Prop where
  world : s.world.Agree S t.world
  tokens : s.tokens = t.tokens
  landed : s.tokens.inFlight = []
  csrf : s.csrf = t.csrf
  metrics : s.metrics = t.metrics

theorem TokenStore.landed_openFlight {s : TokenStore} (h : s.inFlight = []) (key : TokenKey) (secret secret' : String)
    (now : Nat) (result : Except TokenError TokenAnswer) :
    (s.openFlight key secret).landed now key result = (s.openFlight key secret').landed now key result ∧
      ((s.openFlight key secret).landed now key result).inFlight = [] := by
  cases result <;> simp [landed, setToken, removeFlight, openFlight, h]

variable {n : Network} {S : Sent → Sent → Prop} {C : Call → Call → Prop} {v : Veil} {h k : Headers}

theorem Token.requestToken_inStep (hn : n.Conceals S C) {w w' : World} (hw : w.Agree S w')
    {clientId secret secret' url : String}
    (hasked : ∀ u, Url.parse url = .ok u →
      C (.initial .post u requestHeaders (requestBody clientId secret))
        (.initial .post u requestHeaders (requestBody clientId secret'))) (timeout : Nat) :
    InStep (World.Agree S) (requestToken n timeout clientId secret url w)
      (requestToken n timeout clientId secret' url w') := by
  obtain ⟨answer, x, y, hx, hy, hafter⟩ := (Call.request_inStep hn hw hasked timeout).pairs
  unfold requestToken
  rw [hx, hy]
  rcases answer with e | r
  · exact ⟨rfl, hafter⟩
  · dsimp only
    split
    · exact ⟨rfl, hafter⟩
    · obtain ⟨body, x', y', hx', hy', hread⟩ := (hafter.readBody r).pairs
      rw [hx', hy']
      exact ⟨rfl, hread⟩

namespace Session

variable {r : Reach} {s t : Session}

theorem Agree.record (hst : s.Agree S t) (m : Metric) : (s.record m).Agree S (t.record m) :=
  ⟨hst.world, hst.tokens, hst.landed, hst.csrf, congrArg (m :: ·) hst.metrics⟩

theorem Agree.withWorld (hst : s.Agree S t) {w w' : World} (hw : w.Agree S w') :
    { s with world := w }.Agree S { t with world := w' } :=
  ⟨hw, hst.tokens, hst.landed, hst.csrf, hst.metrics⟩

theorem getToken_inStep (key : TokenKey) (hn : r.network.Conceals S C) (hst : s.Agree S t) {secret secret' : String}
    (hasked : ∀ u, Url.parse key.tokenUrl = .ok u →
      C (.initial .post u Token.requestHeaders (Token.requestBody key.clientId secret))
        (.initial .post u Token.requestHeaders (Token.requestBody key.clientId secret'))) :
    InStep (Agree S) (getToken r key secret s) (getToken r key secret' t) := by
  -- No flight is under way, so the only one there will be is opened here and lands here.
  have hflight : t.tokens.flight? key = none := by
    rw [TokenStore.flight?, ← hst.tokens, hst.landed]
    rfl
  simp only [getToken, TokenStore.enter, hst.tokens, hflight, hst.world.clock]
  cases hcached : t.tokens.cached? t.world.clock key with
  | some token => exact ⟨rfl, hst⟩
  | none =>
    obtain ⟨answer, w, w', hx, hy, hafter⟩ := (Token.requestToken_inStep hn hst.world hasked r.tokenTimeout).pairs
    dsimp only [fetchToken]
    rw [hx, hy]
    dsimp only
    have hland (secret : String) : (t.tokens.openFlight key secret).complete w'.clock key t.tokens.opened answer =
        (t.tokens.openFlight key secret).landed w'.clock key answer :=
      TokenStore.complete_eq_landed (f := ⟨t.tokens.opened, secret⟩)
        (by rw [TokenStore.flight?_openFlight hflight, if_pos rfl]) w'.clock answer
    obtain ⟨hsame, hnone⟩ :=
      TokenStore.landed_openFlight (hst.tokens ▸ hst.landed) key secret secret' w'.clock answer
    rw [hafter.clock, hland, hland]
    exact ⟨rfl, hafter, hsame, hnone, hst.csrf, congrArg (_ :: ·) hst.metrics⟩

theorem getCsrfToken_inStep (hv : v.Covers r.network) (hst : s.Agree v.sent t) (hhk : v.headers h k) (url : String) :
    InStep (Agree v.sent) (getCsrfToken r url (h.get? .authorization) s)
      (getCsrfToken r url (k.get? .authorization) t) := by
  have hget : s.csrf.get? url = t.csrf.get? url := congrArg (·.get? url) hst.csrf
  unfold getCsrfToken
  rw [hget]
  split
  · exact ⟨rfl, hst⟩
  · obtain ⟨answer, w, w', hx, hy, hafter⟩ :=
      (Call.request_inStep hv.toConceals hst.world (fun u _ => hv.handshake h k u hhk) r.tokenTimeout).pairs
    rw [hx, hy]
    rcases answer with e | response
    · exact ⟨rfl, hst.withWorld hafter⟩
    · dsimp only
      split
      · exact ⟨rfl, hst.withWorld hafter⟩
      · split
        · exact ⟨rfl, hst.withWorld hafter⟩
        · rename_i token _
          have hcsrf : s.csrf.insert url token = t.csrf.insert url token := congrArg (·.insert url token) hst.csrf
          exact ⟨rfl, hafter, hst.tokens, hst.landed, hcsrf, hst.metrics⟩

structure SetInStep (v : Veil) (x y : (Headers × Except AuthorizationError Unit) × Session) : Prop where
  headers : v.headers x.1.1 y.1.1
  result : x.1.2 = y.1.2
  after : x.2.Agree v.sent y.2

theorem setMechanism_inStep (hv : v.Covers r.network) (hst : s.Agree v.sent t) (hhk : v.headers h k) {m m' : Mechanism}
    (hm : v.Mechanisms m m') : SetInStep v (setMechanism r m h s) (setMechanism r m' k t) := by
  cases hm with
  | none => exact ⟨hhk, rfl, hst⟩
  | basic hset =>
    rw [setMechanism_basic, setMechanism_basic]
    exact ⟨hset h k hhk, rfl, hst⟩
  | @oauth clientId secret secret' tokenUrl hasked =>
    obtain ⟨answer, s', t', hx, hy, hafter⟩ :=
      (getToken_inStep ⟨clientId, tokenUrl⟩ hv.toConceals hst hasked).pairs
    unfold setMechanism
    dsimp only
    rw [hx, hy]
    rcases answer with e | token
    · exact ⟨hhk, rfl, hafter⟩
    · dsimp only
      split
      · exact ⟨hhk, rfl, hafter⟩
      · exact ⟨hv.overwritten h k _ hhk, rfl, hafter⟩

theorem shakeHands_inStep (hv : v.Covers r.network) (hst : s.Agree v.sent t) (hhk : v.headers h k) (url : String) :
    SetInStep v (shakeHands r url h s) (shakeHands r url k t) := by
  obtain ⟨answer, s', t', hx, hy, hafter⟩ := (getCsrfToken_inStep hv hst hhk url).pairs
  unfold shakeHands
  rw [hx, hy]
  rcases answer with e | token
  · exact ⟨hhk, rfl, hafter⟩
  · obtain ⟨hheaders, hresult⟩ := hv.applied token h k hhk
    exact ⟨hheaders, congrArg (Except.mapError AuthorizationError.csrf) hresult, hafter⟩

theorem setup_inStep (hv : v.Covers r.network) (hst : s.Agree v.sent t) (hhk : v.headers h k) {x y : Strategy}
    (hxy : v.Strategies x y) : SetInStep v (setup r x h s) (setup r y k t) := by
  obtain ⟨hheaders, hresult, hafter⟩ := setMechanism_inStep hv hst hhk hxy.mechanism
  unfold setup
  rw [hxy.csrf]
  rcases hx : setMechanism r x.mechanism h s with ⟨⟨h', e | done⟩, s'⟩ <;>
    rcases hy : setMechanism r y.mechanism k t with ⟨⟨k', e' | done'⟩, t'⟩ <;> rw [hx, hy] at hheaders hresult hafter
  · exact ⟨hheaders, hresult, hafter⟩
  · cases hresult
  · cases hresult
  · dsimp only
    split
    · exact ⟨hheaders, rfl, hafter⟩
    · exact shakeHands_inStep hv hafter hheaders _

theorem Agree.invalidate (hst : s.Agree S t) (clientId : String) :
    { s with tokens := s.tokens.invalidate clientId }.Agree S { t with tokens := t.tokens.invalidate clientId } := by
  refine ⟨hst.world, congrArg (·.invalidate clientId) hst.tokens, ?_, hst.csrf, hst.metrics⟩
  simp [TokenStore.invalidate, TokenStore.detach, TokenStore.forget, hst.landed]

theorem Agree.eraseCsrf (hst : s.Agree S t) (url : String) :
    { s with csrf := s.csrf.erase url }.Agree S { t with csrf := t.csrf.erase url } :=
  ⟨hst.world, hst.tokens, hst.landed, congrArg (·.erase url) hst.csrf, hst.metrics⟩

theorem Agree.reset (hst : s.Agree v.sent t) {x y : Strategy} (hxy : v.Strategies x y) :
    (s.reset x).Agree v.sent (t.reset y) := by
  obtain ⟨mechanism, csrf⟩ := x
  obtain ⟨mechanism', csrf'⟩ := y
  obtain ⟨hmechanism, rfl⟩ := hxy
  unfold Session.reset
  cases hmechanism <;> cases csrf
  · exact hst
  · exact hst.eraseCsrf _
  · exact hst
  · exact hst.eraseCsrf _
  · exact hst.invalidate _
  · exact (hst.invalidate _).eraseCsrf _

end Session

namespace Gateway

variable {g : Gateway} {a b : CacheEntry} {s t : Session}

theorem authorize_inStep (hv : v.Covers g.network) (hst : s.Agree v.sent t) (hab : v.Entries a b) (o : Outbound) :
    OutcomeRel v.headers (g.authorize a o s).1 (g.authorize b o t).1 ∧
      (g.authorize a o s).2.Agree v.sent (g.authorize b o t).2 := by
  unfold authorize
  split
  · exact ⟨.ok (hv.same _), hst⟩
  · obtain ⟨hheaders, hresult, hafter⟩ :=
      Session.setup_inStep (r := g.toReach) hv hst (hv.same o.headers) hab.strategy
    rw [hab.service]
    rcases hx : s.setup g.toReach a.strategy o.headers with ⟨⟨h', e | done⟩, s'⟩ <;>
      rcases hy : t.setup g.toReach b.strategy o.headers with ⟨⟨k', e' | done'⟩, t'⟩ <;>
      rw [hx, hy] at hheaders hresult hafter
    · cases hresult
      exact ⟨.error _, hafter⟩
    · cases hresult
    · cases hresult
    · exact ⟨.ok hheaders, hafter⟩

theorem sendAttempt_inStep (hv : v.Covers g.network) (hst : s.Agree v.sent t) (hab : v.Entries a b)
    (hhk : v.headers h k) (o : Outbound) :
    InStep (Session.Agree v.sent) (g.sendAttempt a o h s) (g.sendAttempt b o k t) := by
  have hcall := hv.attempt a b o h k hab.target hhk
  rw [sendAttempt_eq, sendAttempt_eq, hab.service, hst.world.clock]
  obtain ⟨answer, w, w', hx, hy, hafter⟩ :=
    (Call.send_inStep hv.toConceals hst.world hcall (t.world.clock + g.timeout)).pairs
  dsimp only
  rw [hx, hy]
  exact ⟨rfl, hafter, hst.tokens, hst.landed, hst.csrf, hst.metrics⟩

theorem attempt_inStep (hv : v.Covers g.network) (hst : s.Agree v.sent t) (hab : v.Entries a b) (o : Outbound) :
    InStep (Session.Agree v.sent) (g.attempt a o s) (g.attempt b o t) := by
  obtain ⟨hheaders, hafter⟩ := authorize_inStep hv hst hab o
  unfold attempt
  rcases hx : g.authorize a o s with ⟨x, s'⟩
  rcases hy : g.authorize b o t with ⟨y, t'⟩
  rw [hx, hy] at hheaders hafter
  cases hheaders with
  | error e => exact ⟨rfl, hafter⟩
  | ok hhk => exact sendAttempt_inStep hv hafter hab hhk o

end Gateway
end CredentialGateway
