import CredentialGateway.Proofs.Gateway.Recovery
import CredentialGateway.Proofs.Http.HopByHop
import CredentialGateway.Proofs.Token.Store

/-! The headers with which a request reaches its target. They are those of the caller but for what is withheld, and
Authorization is settled by the caller's own token, or else by the mechanism of the service. -/

namespace CredentialGateway

open Http

def TokenStore.Bears (s : TokenStore) (key : TokenKey) (values : List HeaderValue) : Prop :=
  ∃ t v, s.token? key = some t ∧ Session.bearerValue? t.token = some v ∧ values = [v]

def Mechanism.Settles (m : Mechanism) (tokens : TokenStore) (own values : List HeaderValue) : Prop :=
  match m with
  | .none => values = own
  | .basic username password => values = [Call.basicValue username password]
  | .oauth clientId _ tokenUrl => tokens.Bears ⟨clientId, tokenUrl⟩ values

namespace Session

variable {r : Reach} {s s' : Session} {h h' : Headers} {key : TokenKey}

theorem token?_of_fetchToken {f : Flight} {token : String} (hf : s.tokens.flight? key = some f)
    (hok : fetchToken r key f s = (.ok token, s')) : ∃ t, s'.tokens.token? key = some t ∧ t.token = token := by
  unfold fetchToken at hok
  rcases hrequest : Token.requestToken r.network r.tokenTimeout key.clientId f.clientSecret key.tokenUrl s.world with
    ⟨e | a, world⟩
  · rw [hrequest] at hok
    cases hok
  · rw [hrequest] at hok
    cases hok
    refine ⟨.ofAnswer a world.clock, ?_, rfl⟩
    dsimp only
    rw [TokenStore.complete_eq_landed hf, TokenStore.token?_landed_ok, if_pos rfl]

theorem token?_of_getToken {clientSecret token : String} (hok : getToken r key clientSecret s = (.ok token, s')) :
    ∃ t, s'.tokens.token? key = some t ∧ t.token = token := by
  unfold getToken at hok
  split at hok
  · rename_i hcached
    cases hok
    obtain ⟨t, ht, -, htoken⟩ := TokenStore.token?_eq_some_of_cached? hcached
    exact ⟨t, ht, htoken⟩
  · rename_i hcached
    unfold TokenStore.enter at hok
    rw [hcached] at hok
    rcases hflight : s.tokens.flight? key with - | f
    · -- A flight is opened, and it is the one that ends.
      simp only [hflight] at hok
      refine token?_of_fetchToken ?_ hok
      rw [TokenStore.flight?_openFlight hflight, if_pos rfl]
    · simp only [hflight] at hok
      exact token?_of_fetchToken hflight hok

theorem settles_of_setMechanism {m : Mechanism} (hok : setMechanism r m h s = ((h', .ok ()), s')) :
    m.Settles s'.tokens (h.all .authorization) (h'.all .authorization) := by
  cases m with
  | none =>
    cases hok
    exact rfl
  | basic username password =>
    rw [setMechanism_basic] at hok
    cases hok
    exact Headers.all_set_self h _ _
  | oauth clientId clientSecret tokenUrl =>
    simp only [setMechanism] at hok
    split at hok
    · cases hok
    · rename_i token s₁ hget
      split at hok
      · cases hok
      · rename_i v hv
        cases hok
        obtain ⟨t, ht, rfl⟩ := token?_of_getToken hget
        exact ⟨t, v, ht, hv, Headers.all_set_self h _ v⟩

theorem setup_without_csrf {strategy : Strategy} (hcsrf : strategy.csrf = none)
    (hok : setup r strategy h s = ((h', .ok ()), s')) :
    (∀ n, n ≠ .authorization → h'.all n = h.all n) ∧
      strategy.mechanism.Settles s'.tokens (h.all .authorization) (h'.all .authorization) := by
  unfold setup at hok
  split at hok
  · cases hok
  · rename_i h₁ s₁ hmechanism
    rw [hcsrf] at hok
    cases hok
    exact ⟨fun n hn => setMechanism_spec hmechanism hn, settles_of_setMechanism hmechanism⟩

end Session

namespace Gateway

/-- The Authorization values of an attempt: the caller's own token alone, or else what the mechanism makes of the values
that are left of the caller's. -/
def AuthorizationSettled (r : Request) (m : Mechanism) (tokens : TokenStore) (values : List HeaderValue) : Prop :=
  match r.headers.get? .accessToken with
  | some token => values = [token.hidden]
  | none =>
    m.Settles tokens (if r.headers.Withheld .authorization then [] else r.headers.all .authorization) values

/-- What the attempts of a request are made with, and in which state: the first after all preparations, the second after
the renewal that a 403 leads to. -/
inductive Settled (g : Gateway) (r : Request) (s : State) : Ready → State → Prop
  | first {p : Ready} {t : State} (prepared : g.prepare r s = (.ok p, t)) : Settled g r s p t
  | second {p q : Ready} {t u v : State} {result : Except ProxyError Received} (prepared : g.prepare r s = (.ok p, t))
      (first : g.tryOnce p t = (result, u)) (forbidden : IsForbidden result) (renewed : g.renew p u = (.ok q, v)) :
      Settled g r s q v

section
variable {g : Gateway} {r : Request} {s t : State} {p : Ready}

theorem accessToken_of_outboundOf {service : String} {o : Outbound} (h : g.outboundOf r = .ok (service, o)) :
    o.accessToken = (r.headers.get? .accessToken).map HeaderValue.hidden := by
  unfold outboundOf Outbound.ofRequest at h
  split at h
  · cases h
  · split at h
    · cases h
    · cases h
      rfl

theorem setup_of_authorize {e : CacheEntry} {o : Outbound} {h : Headers} {x x' : Session} (htoken : o.accessToken = none)
    (hok : g.authorize e o x = (.ok h, x')) : x.setup g.toReach e.strategy o.headers = ((h, .ok ()), x') := by
  unfold authorize at hok
  rw [htoken] at hok
  rcases hsetup : x.setup g.toReach e.strategy o.headers with ⟨⟨h', err | done⟩, y⟩
  · rw [hsetup] at hok
    cases hok
  · rw [hsetup] at hok
    cases hok
    rfl

theorem Settled.settle (h : g.Settled r s p t) :
    g.outboundOf r = .ok (p.service, p.outbound) ∧ ∃ u, g.settle p.service p.outbound p.entry u = (.ok p, t) := by
  cases h with
  | first prepared =>
    obtain ⟨hout, u, -, hsettle⟩ := prepare_spec prepared
    exact ⟨hout, u, hsettle⟩
  | second prepared _ _ renewed =>
    obtain ⟨hout, -⟩ := prepare_spec prepared
    obtain ⟨⟨hservice, hsame⟩, u, -, hsettle⟩ := renew_spec renewed
    rw [hservice, hsame]
    exact ⟨hout, u, hsettle⟩

theorem Settled.headers (h : g.Settled r s p t) (hcsrf : p.entry.strategy.csrf = none) :
    (∀ n, n ≠ .authorization →
        p.headers.all n = if r.headers.Withheld n then [] else r.headers.all n) ∧
      AuthorizationSettled r p.entry.strategy.mechanism t.tokens (p.headers.all .authorization) := by
  obtain ⟨hout, u, hsettle⟩ := h.settle
  have htoken := accessToken_of_outboundOf hout
  obtain ⟨-, -, -, hheaders⟩ := outboundOf_spec hout
  obtain ⟨-, hauthorize, -⟩ := settle_spec hsettle
  have hown := r.headers.all_forwardedHeaders
  unfold AuthorizationSettled
  rcases hget : r.headers.get? .accessToken with - | token <;> rw [hget] at htoken
  · obtain ⟨hothers, hsettles⟩ := Session.setup_without_csrf hcsrf (setup_of_authorize htoken hauthorize)
    rw [hheaders] at hothers hsettles
    rw [← hown]
    exact ⟨fun n hn => (hothers n hn).trans (hown n), hsettles⟩
  · unfold authorize at hauthorize
    rw [htoken] at hauthorize
    obtain ⟨hset, -⟩ := Prod.mk.inj hauthorize
    rw [← Except.ok.inj hset, hheaders]
    exact ⟨fun n hn => (Headers.all_set_of_ne _ _ hn).trans (hown n), Headers.all_set_self _ _ _⟩

theorem all_authorization_callOf (e : CacheEntry) (o : Outbound) {h : Headers} (hne : h.all .authorization ≠ []) :
    (callOf e o h).headers.all .authorization = h.all .authorization := by
  have haccept : HeaderName.authorization ≠ .accept := by decide
  simp only [callOf, Call.all_withAccept, Headers.all_override, if_neg hne, haccept, false_and, if_false]

theorem Course.settled {made : List Attempt} {last : Except ProxyError Received} {after : State}
    (h : Course g r s made last after) :
    ∀ a ∈ made, ∃ p t, g.Settled r s p t ∧ a = p.attempt (g.tryOnce p t).1 := by
  cases h with
  | refused _ => exact fun a ha => nomatch ha
  | single prepared first _ | stranded prepared first _ _ =>
    intro a ha
    obtain rfl := List.mem_singleton.mp ha
    exact ⟨_, _, .first prepared, by rw [first]⟩
  | renewed prepared first forbidden renewed second =>
    intro a ha
    rcases List.mem_cons.mp ha with rfl | ha
    · exact ⟨_, _, .first prepared, by rw [first]⟩
    · obtain rfl := List.mem_singleton.mp ha
      exact ⟨_, _, .second prepared first forbidden renewed, by rw [second]⟩

theorem Course.answered {made : List Attempt} {received : Received} {after : State}
    (h : Course g r s made (.ok received) after) :
    ∃ p t, g.Settled r s p t ∧ (g.tryOnce p t).1 = .ok received ∧ after.world = (g.tryOnce p t).2.world := by
  cases h with
  | single prepared first _ => exact ⟨_, _, .first prepared, congrArg Prod.fst first, by rw [first]⟩
  | renewed prepared first forbidden renewed second =>
    exact ⟨_, _, .second prepared first forbidden renewed, congrArg Prod.fst second, by rw [second]; rfl⟩

end
end Gateway
end CredentialGateway
