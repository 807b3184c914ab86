import CredentialGateway.Proofs.Gateway.Holdings

/-! What is attached to requests after the secrets of their service have been dropped: secrets that the endpoints are
asked for anew, and as long as these are held, the same again without asking. -/

namespace CredentialGateway

open Http

theorem CsrfToken.all_authorization_apply (t : CsrfToken) (h : Headers) :
    (t.apply h).1.all .authorization = h.all .authorization := by
  unfold apply
  split
  · rfl
  · rename_i token _
    have hset : (h.set .csrfToken token).all .authorization = h.all .authorization :=
      Headers.all_set_of_ne h token (by decide)
    dsimp only
    split
    · exact hset
    · split
      · exact hset
      · exact (Headers.all_set_of_ne _ _ (by decide)).trans hset

namespace Session

variable {r : Reach} {strategy : Strategy} {s s' : Session} {h h' : Headers}

theorem tokens_getCsrfToken (r : Reach) (url : String) (authorization : Option HeaderValue) (s : Session) :
    (getCsrfToken r url authorization s).2.tokens = s.tokens := by
  rcases getCsrfToken_cases r url authorization s with ⟨t, -, hget⟩ | hshaken
  · rw [hget]
  · exact hshaken.tokens

theorem setup_parts (hok : setup r strategy h s = ((h', .ok ()), s')) :
    ∃ h₁ s₁, setMechanism r strategy.mechanism h s = ((h₁, .ok ()), s₁) ∧
      h'.all .authorization = h₁.all .authorization ∧ s'.tokens = s₁.tokens ∧
        (strategy.csrf = none ∧ s' = s₁ ∨
          ∃ url t, strategy.csrf = some url ∧ getCsrfToken r url (h₁.get? .authorization) s₁ = (.ok t, s')) := by
  unfold setup at hok
  split at hok
  · cases hok
  · rename_i h₁ s₁ hmechanism
    refine ⟨h₁, s₁, hmechanism, ?_⟩
    split at hok
    · rename_i hnone
      cases hok
      exact ⟨rfl, rfl, .inl ⟨hnone, rfl⟩⟩
    · rename_i url hurl
      unfold shakeHands at hok
      have htokens := tokens_getCsrfToken r url (h₁.get? .authorization) s₁
      split at hok
      · cases hok
      · rename_i t s₂ hget
        rw [hget] at htokens
        have happly := t.all_authorization_apply h₁
        dsimp only at hok
        obtain ⟨hpair, rfl⟩ := Prod.mk.inj hok
        obtain ⟨rfl, -⟩ := Prod.mk.inj hpair
        exact ⟨happly, htokens, .inr ⟨url, t, hurl, hget⟩⟩

theorem written_of_setup (hok : setup r strategy h s = ((h', .ok ()), s')) : (s'.secrets strategy).WrittenOn h h' := by
  obtain ⟨-, hcsrf⟩ := setup_spec hok
  refine ⟨fun t ht => ?_, hcsrf⟩
  obtain ⟨h₁, s₁, hmechanism, hauthorization, htokens, -⟩ := setup_parts hok
  have hsettles := settles_of_setMechanism hmechanism
  obtain ⟨key, hkey, hstored⟩ := Option.bind_eq_some_iff.mp ht
  cases hm : strategy.mechanism with
  | none => rw [hm] at hkey; cases hkey
  | basic username password => rw [hm] at hkey; cases hkey
  | oauth clientId clientSecret url =>
    rw [hm] at hkey hsettles
    cases hkey
    obtain ⟨t', v, ht', hv, hvalues⟩ := hsettles
    rw [htokens, ht'] at hstored
    cases hstored
    exact ⟨v, hv, hauthorization.trans hvalues⟩

theorem renewed_of_setup (hidle : s.Idle) (hbearer : (s.secrets strategy).bearer = none)
    (hcsrf : (s.secrets strategy).csrf = none) (hok : setup r strategy h s = ((h', .ok ()), s')) :
    (s'.secrets strategy).Renewed r strategy s.world s'.world := by
  obtain ⟨h₁, s₁, hmechanism, -, htokens, hshake⟩ := setup_parts hok
  have hgrown := grown_setMechanism r strategy.mechanism h s
  have hpast := (kept_precedes r s.world).setMechanism strategy.mechanism h (.refl s.world)
  rw [hmechanism] at hgrown hpast
  have hlater : s₁.world.Precedes s'.world := by
    rcases hshake with ⟨-, rfl⟩ | ⟨url, t, -, hget⟩
    · exact .refl _
    · have hprecedes := (kept_precedes r s₁.world).getCsrfToken url (h₁.get? .authorization) s₁ (.refl _)
      rwa [hget] at hprecedes
  refine ⟨fun clientId secret url hm => ?_, fun url hurl => ?_⟩
  · simp only [secrets, hm, Mechanism.key?, Option.bind_some] at hbearer ⊢
    simp only [hm, setMechanism] at hmechanism
    split at hmechanism
    · cases hmechanism
    · rename_i token s₂ hget
      obtain rfl : s₂ = s₁ := by
        split at hmechanism
        · cases hmechanism
        · cases hmechanism
          rfl
      rcases hidle.getToken r ⟨clientId, url⟩ secret with ⟨t, ht, -⟩ | ⟨-, ⟨answer, hrequest, hresult, hstored⟩, -⟩
      · rw [hbearer] at ht
        cases ht
      · rw [hget] at hrequest hresult hstored
        cases answer with
        | error e => cases hresult
        | ok a =>
          refine ⟨.ofAnswer a s₂.world.clock, ?_, s.world, a, s₂.world, .refl _, hrequest, hlater, rfl⟩
          rw [htokens, hstored, TokenStore.token?_landed_ok, if_pos rfl]
  · simp only [secrets, hurl, Option.bind_some] at hcsrf ⊢
    rcases hshake with ⟨hnone, -⟩ | ⟨url', t, hurl', hget⟩
    · rw [hurl] at hnone
      cases hnone
    · obtain rfl : url = url' := Option.some.inj (hurl.symm.trans hurl')
      rcases getCsrfToken_cases r url (h₁.get? .authorization) s₁ with ⟨t', ht', -⟩ | ⟨-, -, -, hanswer⟩
      -- The mechanism has left the CSRF store alone, so the handshake finds no token there either.
      · rw [hgrown.csrf, hcsrf] at ht'
        cases ht'
      · rw [hget] at hanswer
        rcases hanswer with ⟨e, he, -⟩ | ⟨response, t', hrequest, hstatus, htoken, hsame, hstored⟩
        · cases he
        · cases hsame
          exact ⟨t, by rw [hstored, CsrfStore.get?_insert, if_pos rfl], h₁.get? .authorization, s₁.world, response,
            s'.world, hpast, hrequest, hstatus, htoken, .refl _⟩

theorem setup_again {w w' : World} {before after : Headers} (hr : (s.secrets strategy).Renewed r strategy w w')
    (hwritten : (s.secrets strategy).WrittenOn before after) (hvalid : (s.secrets strategy).IsValid s.world.clock)
    (h : Headers) : ∃ h', setup r strategy h s = ((h', .ok ()), s) := by
  have hmechanism : ∃ h₁, setMechanism r strategy.mechanism h s = ((h₁, .ok ()), s) := by
    cases hm : strategy.mechanism with
    | none => exact ⟨h, rfl⟩
    | basic username password => exact ⟨_, setMechanism_basic r username password h s⟩
    | oauth clientId secret url =>
      obtain ⟨t, ht, -⟩ := hr.bearer clientId secret url hm
      -- It forms a header value, since it has been written once.
      obtain ⟨v, hv, -⟩ := hwritten.bearer t ht
      have hstored : s.tokens.token? ⟨clientId, url⟩ = some t := by
        simpa only [secrets, hm, Mechanism.key?, Option.bind_some] using ht
      exact ⟨h.set .authorization v, by
        simp only [setMechanism, getToken_of_isValid hstored (hvalid t ht) r secret, hv]⟩
  obtain ⟨h₁, hmechanism⟩ := hmechanism
  unfold setup
  rw [hmechanism]
  dsimp only
  cases hcsrf : strategy.csrf with
  | none => exact ⟨h₁, rfl⟩
  | some url =>
    obtain ⟨t, ht, authorization, before, response, after, -, -, -, htoken, -⟩ := hr.csrf url hcsrf
    have hstored : s.csrf.get? url = some t := by
      simpa only [secrets, hcsrf, Option.bind_some] using ht
    obtain ⟨h', happly⟩ := CsrfToken.apply_of_ofHeaders? htoken h₁
    refine ⟨h', ?_⟩
    simp only [shakeHands, getCsrfToken, hstored, happly]
    rfl

theorem Holds.secrets_eq {v : Session} {w w' : World} (h : Holds strategy (v.secrets strategy) s)
    (hr : (v.secrets strategy).Renewed r strategy w w') (hvalid : (v.secrets strategy).IsValid s.world.clock) :
    s.secrets strategy = v.secrets strategy := by
  have hbearer : (s.secrets strategy).bearer = (v.secrets strategy).bearer := by
    cases hm : strategy.mechanism with
    | none => simp only [secrets, hm, Mechanism.key?, Option.bind_none]
    | basic username password => simp only [secrets, hm, Mechanism.key?, Option.bind_none]
    | oauth clientId secret url =>
      obtain ⟨t, ht, -⟩ := hr.bearer clientId secret url hm
      have hkey : strategy.mechanism.key? = some ⟨clientId, url⟩ := by rw [hm]; rfl
      rw [ht, secrets, hkey, Option.bind_some]
      exact h.bearer _ t hkey ht (hvalid t ht)
  have hcsrf : (s.secrets strategy).csrf = (v.secrets strategy).csrf := by
    cases hurl : strategy.csrf with
    | none => simp only [secrets, hurl, Option.bind_none]
    | some url =>
      obtain ⟨t, ht, -⟩ := hr.csrf url hurl
      rw [ht, secrets, hurl, Option.bind_some]
      exact h.csrf url t hurl ht
  exact congrArg₂ Secrets.mk hbearer hcsrf

theorem secrets_reset (strategy : Strategy) (s : Session) :
    (s.reset strategy).secrets strategy = ⟨none, none⟩ := by
  have hbearer : strategy.mechanism.key?.bind (s.reset strategy).tokens.token? = none := by
    cases hkey : strategy.mechanism.key? with
    | none => rfl
    | some key => exact token?_reset_self hkey s
  have hcsrf : strategy.csrf.bind (s.reset strategy).csrf.get? = none := by
    cases hurl : strategy.csrf with
    | none => rfl
    | some url => rw [Option.bind_some, csrf_reset, if_pos hurl]
  exact congrArg₂ Secrets.mk hbearer hcsrf

theorem Untouched.secrets_eq (h : s.Untouched s') (strategy : Strategy) : s'.secrets strategy = s.secrets strategy := by
  rw [secrets, secrets, h.tokens, h.csrf]

end Session

namespace Gateway

variable {g : Gateway} {r : Request} {s t u v : State} {p q : Ready} {d : Directory}

theorem written_callOf {secrets : Secrets} {before after : Headers} (h : secrets.WrittenOn before after) (e : CacheEntry)
    (o : Outbound) : secrets.WrittenOn before (callOf e o after).headers := by
  refine ⟨fun t ht => ?_, ?_⟩
  · obtain ⟨value, hvalue, hall⟩ := h.bearer t ht
    have hne : after.all .authorization ≠ [] := by
      rw [hall]
      exact List.cons_ne_nil value []
    exact ⟨value, hvalue, (all_authorization_callOf e o hne).trans hall⟩
  · exact h.csrf.congr_right (all_callOf_of_ne e o after (by decide) (by decide))
      (all_callOf_of_ne e o after (by decide) (by decide))

theorem backs_of_refused (hd : s.metadata = .directory d) (hbacks : ∀ e ∈ s.cache.entries, d.Backs e)
    (h : g.Refused r s p u) : d.Backs p.entry ∧ p.entry.service = p.service ∧ u.metadata = .directory d := by
  obtain ⟨t, result, hprepare, hfirst, -⟩ := h
  obtain ⟨-, y, hentry, hsettle⟩ := prepare_spec hprepare
  obtain ⟨hback, hservice⟩ := backs_of_entryFor (s := g.awaitBody r s) hd hbacks hentry
  have hfound := metadata_entryFor p.service (g.awaitBody r s)
  rw [hentry] at hfound
  have hprepared : t.metadata = .directory d := ((metadata_settle hsettle).trans hfound).trans hd
  refine ⟨hback, hservice, ?_⟩
  cases hfirst
  exact hprepared

theorem alike_of_renew (hd : u.metadata = .directory d) (hp : d.Backs p.entry) (hservice : p.entry.service = p.service)
    (h : g.renew p u = (.ok q, v)) : q.entry.Alike p.entry ∧ d.Backs q.entry := by
  obtain ⟨-, y, hrebuild, -⟩ := renew_spec h
  have hdirectory : ({ u with toSession := u.toSession.reset p.entry.strategy } : State).metadata = .directory d := hd
  obtain ⟨hback, hname⟩ := backs_of_rebuildEntry hdirectory hrebuild
  exact ⟨hback.alike hp (hname.trans hservice.symm), hback⟩

theorem renewed_of_renew (hidle : u.toSession.Idle) (hstrategy : q.entry.strategy = p.entry.strategy)
    (htoken : p.outbound.accessToken = none) (h : g.renew p u = (.ok q, v)) :
    (v.toSession.secrets q.entry.strategy).Renewed g.toReach q.entry.strategy u.world v.world ∧
      (v.toSession.secrets q.entry.strategy).WrittenOn p.outbound.headers q.headers ∧ v.toSession.Idle := by
  obtain ⟨-, y, hrebuild, hsettle⟩ := renew_spec h
  obtain ⟨-, hauthorize, -⟩ := settle_spec hsettle
  have hsetup := setup_of_authorize htoken hauthorize
  have hquiet := untouched_rebuildEntry p.service { u with toSession := u.toSession.reset p.entry.strategy }
  rw [hrebuild] at hquiet
  -- The entry is new, but its strategy names the keys that have just been dropped.
  have hdropped : y.toSession.secrets q.entry.strategy = ⟨none, none⟩ := by
    rw [hquiet.secrets_eq, hstrategy]
    exact Session.secrets_reset p.entry.strategy u.toSession
  have hreset : (u.toSession.reset p.entry.strategy).Idle :=
    (Session.kept_idle g.toReach).reset p.entry.strategy u.toSession trivial hidle
  have hyidle : y.toSession.Idle := (Session.kept_idle g.toReach).untouched _ _ hquiet hreset
  have hworld : y.world = u.world := hquiet.world.trans (Session.world_reset p.entry.strategy u.toSession)
  have hrenewed := Session.renewed_of_setup hyidle (by rw [hdropped]) (by rw [hdropped]) hsetup
  have hvidle := (Session.kept_idle g.toReach).setup q.entry.strategy p.outbound.headers hyidle
  rw [hsetup] at hvidle
  rw [hworld] at hrenewed
  exact ⟨hrenewed, Session.written_of_setup hsetup, hvidle⟩

theorem outbound_of_refused (hown : r.headers.get? .accessToken = none) (h : g.Refused r s p u) :
    p.outbound.accessToken = none ∧ p.outbound.headers = Outbound.forwardedHeaders r.headers := by
  obtain ⟨t, result, hprepare, -⟩ := h
  obtain ⟨hout, -⟩ := prepare_spec hprepare
  obtain ⟨-, -, -, hheaders⟩ := outboundOf_spec hout
  exact ⟨by rw [accessToken_of_outboundOf hout, hown, Option.map_none], hheaders⟩

theorem idle_of_refused (hidle : s.toSession.Idle) (h : g.Refused r s p u) : u.toSession.Idle := by
  obtain ⟨t, result, hprepare, hfirst, -⟩ := h
  have hkept := Session.kept_idle g.toReach
  exact hkept.tryOnce (hkept.prepare hidle hprepare) hfirst

theorem Course.renewal {a b : Attempt} {last : Except ProxyError Received} {after : State}
    (h : Course g r s [a, b] last after) :
    ∃ p u q v w, g.Refused r s p u ∧ g.renew p u = (.ok q, v) ∧ g.tryOnce q v = (last, w) ∧ IsForbidden a.result ∧
      b = q.attempt last ∧ after = w.record (.forbiddenRetry (outcomeOf last)) := by
  cases h with
  | @renewed p q t u v w result _ prepared first forbidden renewed second =>
    exact ⟨p, u, q, v, w, ⟨t, result, prepared, first, forbidden⟩, renewed, second, forbidden, rfl, rfl⟩

theorem prepare_again {x : Session} {w w' : World} {before after : Headers} {e : CacheEntry} {o : Outbound}
    (hd : s.metadata = .directory d) (hbacks : ∀ f ∈ s.cache.entries, d.Backs f) (he : d.Backs e)
    (hholds : Session.Holds e.strategy (x.secrets e.strategy) s.toSession)
    (hr : (x.secrets e.strategy).Renewed g.toReach e.strategy w w')
    (hwritten : (x.secrets e.strategy).WrittenOn before after)
    (hvalid : (x.secrets e.strategy).IsValid (g.awaitBody r s).world.clock)
    (hout : g.outboundOf r = .ok (e.service, o)) (hown : r.headers.get? .accessToken = none) :
    ∃ p t, g.prepare r s = (.ok p, t) ∧ t.world = (g.awaitBody r s).world ∧
      ∀ result, (x.secrets e.strategy).WrittenOn (Outbound.forwardedHeaders r.headers) (p.attempt result).call.headers := by
  generalize harrived : g.awaitBody r s = arrived at hvalid ⊢
  replace hd : arrived.metadata = .directory d := by rw [← harrived]; exact hd
  replace hbacks : ∀ f ∈ arrived.cache.entries, d.Backs f := by rw [← harrived]; exact hbacks
  replace hholds : Session.Holds e.strategy (x.secrets e.strategy) arrived.toSession := by
    rw [← harrived]
    exact (Session.kept_holds g.toReach e.strategy _).later s.toSession _ (.advance s.world _) hholds
  obtain ⟨found, hfound, halike⟩ := entryFor_of_backs hd hbacks he
  have hquiet := untouched_entryFor e.service arrived
  rcases hentry : State.entryFor e.service arrived with ⟨outcome, t⟩
  rw [hentry] at hfound hquiet
  obtain rfl : outcome = .ok found := hfound
  have hsecrets : t.toSession.secrets e.strategy = x.secrets e.strategy :=
    (hquiet.secrets_eq e.strategy).trans (hholds.secrets_eq hr hvalid)
  have hclock : t.world.clock = arrived.world.clock := congrArg World.clock hquiet.world
  obtain ⟨-, -, -, hheaders⟩ := outboundOf_spec hout
  have htoken : o.accessToken = none := by rw [accessToken_of_outboundOf hout, hown, Option.map_none]
  -- The entry that is found may be another one, but it is of the same strategy.
  rw [← hsecrets, ← halike.strategy] at hr hwritten hvalid ⊢
  rw [← hclock] at hvalid
  obtain ⟨h', hsetup⟩ := Session.setup_again hr hwritten hvalid o.headers
  refine ⟨⟨e.service, o, found, h'⟩, t, ?_, hquiet.world, fun result => ?_⟩
  · simp only [prepare, harrived, hout, hentry, settle, State.onSession, authorize, htoken, hsetup]
  · rw [← hheaders]
    exact written_callOf (Session.written_of_setup hsetup) found o

end Gateway
end CredentialGateway
