import CredentialGateway.Proofs.Gateway.Session
import CredentialGateway.Proofs.Network.History

/-! Where a CSRF token comes from: from a request to its endpoint that carried some Authorization. A store that keeps
tokens by URL can tell no more than that it was the Authorization of one of those who asked. -/

namespace CredentialGateway

open Http

def Strategy.IsOpen (strategy : Strategy) (url : String) : Prop := strategy.csrf = some url → strategy.mechanism = .none

namespace Session

/-- The endpoint has handed out this token in answer to a request that carried this Authorization. -/
def HandedOut (r : Reach) (url : String) (w : World) (authorization : Option HeaderValue) (t : CsrfToken) : Prop :=
  ∃ before response after,
    Call.request r.network r.tokenTimeout .get url (csrfHeaders authorization) [] before = (.ok response, after) ∧
      isSuccess response.status ∧ CsrfToken.ofHeaders? response.headers = some t ∧ after.sent <+: w.sent

def Provides (r : Reach) (url : String) (asked : Option HeaderValue → Prop) (s : Session) : Prop :=
  ∀ t, s.csrf.get? url = some t → ∃ authorization, asked authorization ∧ HandedOut r url s.world authorization t

variable {r : Reach} {url : String} {asked : Option HeaderValue → Prop} {s s' : Session} {h h' : Headers}

theorem HandedOut.mono {w w' : World} {authorization : Option HeaderValue} {t : CsrfToken}
    (h : HandedOut r url w authorization t) (hsent : w.sent <+: w'.sent) : HandedOut r url w' authorization t := by
  obtain ⟨before, response, after, hrequest, hstatus, htoken, hafter⟩ := h
  exact ⟨before, response, after, hrequest, hstatus, htoken, hafter.trans hsent⟩

theorem Provides.mono (h : s.Provides r url asked) (hsent : s.world.sent <+: s'.world.sent)
    (hcsrf : ∀ t, s'.csrf.get? url = some t → s.csrf.get? url = some t) : s'.Provides r url asked := by
  intro t ht
  obtain ⟨authorization, hasked, hhanded⟩ := h t (hcsrf t ht)
  exact ⟨authorization, hasked, hhanded.mono hsent⟩

structure Shaken (r : Reach) (url : String) (authorization : Option HeaderValue) (s : Session)
    (result : Except CsrfError CsrfToken × Session) : Prop where
  absent : s.csrf.get? url = none
  world : s.world.Precedes result.2.world
  tokens : result.2.tokens = s.tokens
  answer : (∃ e, result.1 = .error e ∧ result.2.csrf = s.csrf) ∨
    ∃ response t, Call.request r.network r.tokenTimeout .get url (csrfHeaders authorization) [] s.world =
      (.ok response, result.2.world) ∧ isSuccess response.status = true ∧
        CsrfToken.ofHeaders? response.headers = some t ∧ result.1 = .ok t ∧ result.2.csrf = s.csrf.insert url t

theorem getCsrfToken_cases (r : Reach) (url : String) (authorization : Option HeaderValue) (s : Session) :
    (∃ t, s.csrf.get? url = some t ∧ Session.getCsrfToken r url authorization s = (.ok t, s)) ∨
      Shaken r url authorization s (Session.getCsrfToken r url authorization s) := by
  have hprecedes := Call.precedes_request (n := r.network) r.tokenTimeout .get url (csrfHeaders authorization) [] s.world
  unfold Session.getCsrfToken
  split
  · rename_i t ht
    exact .inl ⟨t, ht, rfl⟩
  · rename_i habsent
    right
    split
    · rename_i e world heq
      rw [heq] at hprecedes
      exact ⟨habsent, hprecedes, rfl, .inl ⟨_, rfl, rfl⟩⟩
    · rename_i response world heq
      rw [heq] at hprecedes
      split
      · exact ⟨habsent, hprecedes, rfl, .inl ⟨_, rfl, rfl⟩⟩
      · rename_i hstatus
        split
        · exact ⟨habsent, hprecedes, rfl, .inl ⟨_, rfl, rfl⟩⟩
        · rename_i t ht
          exact ⟨habsent, hprecedes, rfl, .inr ⟨response, t, heq, by simpa using hstatus, ht, rfl, rfl⟩⟩

theorem Provides.getCsrfToken (h : s.Provides r url asked) (other : String) {authorization : Option HeaderValue}
    (hasked : other = url → asked authorization) : (getCsrfToken r other authorization s).2.Provides r url asked := by
  rcases getCsrfToken_cases r other authorization s with ⟨t, -, hget⟩ | ⟨-, hworld, -, hanswer⟩
  · rwa [hget]
  · rcases hanswer with ⟨e, -, hcsrf⟩ | ⟨response, new, hrequest, hstatus, hnew, -, hcsrf⟩
    · exact h.mono hworld.sent fun t ht => hcsrf ▸ ht
    · by_cases hother : other = url
      · -- Here alone the store gains a token, and the request that was just made has brought it.
        subst hother
        intro t ht
        rw [hcsrf, CsrfStore.get?_insert, if_pos rfl] at ht
        cases ht
        exact ⟨authorization, hasked rfl, s.world, response, _, hrequest, hstatus, hnew, List.prefix_rfl⟩
      · refine h.mono hworld.sent fun t ht => ?_
        rwa [hcsrf, CsrfStore.get?_insert, if_neg (Ne.symm hother)] at ht

structure Grown (s s' : Session) : Prop where
  sent : s.world.sent <+: s'.world.sent
  csrf : s'.csrf = s.csrf

theorem Provides.grown (h : s.Provides r url asked) (hgrown : s.Grown s') : s'.Provides r url asked :=
  h.mono hgrown.sent fun _ ht => hgrown.csrf ▸ ht

theorem grown_fetchToken (r : Reach) (key : TokenKey) (f : Flight) (s : Session) :
    s.Grown (fetchToken r key f s).2 :=
  ⟨(Token.precedes_requestToken r.tokenTimeout key.clientId f.clientSecret key.tokenUrl s.world).sent, rfl⟩

theorem grown_getToken (r : Reach) (key : TokenKey) (secret : String) (s : Session) :
    s.Grown (getToken r key secret s).2 := by
  unfold getToken
  split
  · exact ⟨List.prefix_rfl, rfl⟩
  · split
    · exact ⟨List.prefix_rfl, rfl⟩
    · rename_i f tokens _
      have hgrown := grown_fetchToken r key f { s with tokens }
      exact ⟨hgrown.sent, hgrown.csrf⟩
    · rename_i f tokens _
      have hgrown := grown_fetchToken r key f { s with tokens }
      exact ⟨hgrown.sent, hgrown.csrf⟩

theorem grown_setMechanism (r : Reach) (m : Mechanism) (h : Headers) (s : Session) :
    s.Grown (setMechanism r m h s).2 := by
  obtain hsame | ⟨clientId, secret, url, -, hget⟩ := session_setMechanism r m h s
  · rw [hsame]
    exact ⟨List.prefix_rfl, rfl⟩
  · rw [hget]
    exact grown_getToken r ⟨clientId, url⟩ secret s

theorem Provides.setup (h : s.Provides r url asked) {strategy : Strategy} (hopen : strategy.IsOpen url)
    (headers : Headers) (hasked : asked (headers.get? .authorization)) :
    (setup r strategy headers s).2.Provides r url asked := by
  have hgrown := grown_setMechanism r strategy.mechanism headers s
  unfold Session.setup
  split
  · rename_i heq
    rw [heq] at hgrown
    exact h.grown hgrown
  · rename_i h₁ s₁ heq
    rw [heq] at hgrown
    have hmechanism := h.grown hgrown
    split
    · exact hmechanism
    · rename_i other hother
      -- A strategy without a mechanism leaves the caller's Authorization for the handshake to name.
      have hname (hurl : other = url) : asked (h₁.get? .authorization) := by
        subst hurl
        rw [hopen hother] at heq
        cases heq
        exact hasked
      have hshake := hmechanism.getCsrfToken other hname
      unfold shakeHands
      split
      · rename_i hget
        rwa [hget] at hshake
      · rename_i hget
        rwa [hget] at hshake

theorem token_of_setup {strategy : Strategy} (hcsrf : strategy.csrf = some url)
    (hok : setup r strategy h s = ((h', .ok ()), s')) : ∃ t, s'.csrf.get? url = some t := by
  unfold setup at hok
  split at hok
  · cases hok
  · rw [hcsrf] at hok
    obtain ⟨t, hget, -⟩ := shakeHands_spec hok
    exact ⟨t, hget⟩

theorem Provides.reset (h : s.Provides r url asked) (strategy : Strategy) :
    (s.reset strategy).Provides r url asked := by
  have herased (other : String) (t : CsrfToken) (ht : (s.csrf.erase other).get? url = some t) :
      s.csrf.get? url = some t := by
    rw [CsrfStore.get?_erase] at ht
    split at ht
    · cases ht
    · exact ht
  unfold Session.reset
  split <;> split
  · exact h.mono List.prefix_rfl fun t ht => herased _ t ht
  · exact h.mono List.prefix_rfl fun _ ht => ht
  · exact h.mono List.prefix_rfl fun t ht => herased _ t ht
  · exact h

end Session
end CredentialGateway
