import CredentialGateway.Proofs.Gateway.Holdings
import CredentialGateway.Proofs.Network.Redirects

/-! What authorizing a request leaves alone. The stores of secrets are shared by all strategies, but each strategy changes
there only what is its own, and only its own endpoints hear of it. -/

namespace CredentialGateway

open Http

def Strategy.endpoints (s : Strategy) : List String :=
  (s.mechanism.key?.map TokenKey.tokenUrl).toList ++ s.csrf.toList

/-- A request goes to the target of an entry, to an endpoint of its strategy, or to where redirects lead from there. -/
def CacheEntry.Contacts (e : CacheEntry) (n : Network) (since sent : List Sent) (x : Sent) : Prop :=
  x.host = e.target.server ∨ ∃ url ∈ e.strategy.endpoints, n.Reaches since sent url x

theorem CacheEntry.Contacts.mono {e : CacheEntry} {n : Network} {since since' sent sent' : List Sent} {x : Sent}
    (h : e.Contacts n since sent x) (hsince : since' <+: since) (hsent : sent <+: sent') :
    e.Contacts n since' sent' x := by
  obtain htarget | ⟨url, hurl, hreaches⟩ := h
  · exact .inl htarget
  · exact .inr ⟨url, hurl, hreaches.mono hsince hsent⟩

namespace Session

/-- What is done with these entries only: other clients keep their tokens, other endpoints keep their CSRF tokens, and
all requests go to where the entries point. -/
structure Confined (n : Network) (used : CacheEntry → Prop) (s t : Session) : Prop where
  tokens : ∀ key, (∀ e k, used e → e.strategy.mechanism.key? = some k → k.clientId ≠ key.clientId) →
    t.tokens.token? key = s.tokens.token? key
  csrf : ∀ url, (∀ e, used e → e.strategy.csrf ≠ some url) → t.csrf.get? url = s.csrf.get? url
  sent : s.world.Adds (fun x => ∃ e, used e ∧ e.Contacts n s.world.sent t.world.sent x) t.world

variable {n : Network} {r : Reach} {used : CacheEntry → Prop} {s t u : Session} {e : CacheEntry}

theorem Confined.refl (n : Network) (used : CacheEntry → Prop) (s : Session) : Confined n used s s :=
  ⟨fun _ _ => rfl, fun _ _ => rfl, .of_sent_eq rfl⟩

theorem Confined.trans (h : Confined n used s t) (h' : Confined n used t u) : Confined n used s u where
  tokens key hkey := (h'.tokens key hkey).trans (h.tokens key hkey)
  csrf url hurl := (h'.csrf url hurl).trans (h.csrf url hurl)
  sent := by
    have hfirst := h.sent.mono fun x ⟨e, he, hcontacts⟩ =>
      (⟨e, he, hcontacts.mono List.prefix_rfl h'.sent.isPrefix⟩ : ∃ e, used e ∧ e.Contacts n s.world.sent u.world.sent x)
    have hsecond := h'.sent.mono fun x ⟨e, he, hcontacts⟩ =>
      (⟨e, he, hcontacts.mono h.sent.isPrefix List.prefix_rfl⟩ : ∃ e, used e ∧ e.Contacts n s.world.sent u.world.sent x)
    exact hfirst.trans hsecond

theorem Untouched.confined (h : s.Untouched t) : Confined n used s t where
  tokens _ _ := by rw [h.tokens]
  csrf _ _ := by rw [h.csrf]
  sent := .of_sent_eq (congrArg World.sent h.world)

theorem confined_getToken (he : used e) {key : TokenKey} (hkey : e.strategy.mechanism.key? = some key) (secret : String) :
    Confined r.network used s (getToken r key secret s).2 := by
  have hendpoint : key.tokenUrl ∈ e.strategy.endpoints := by simp [Strategy.endpoints, hkey]
  have hfetch (f : Flight) (tokens : TokenStore) (htokens : ∀ other, tokens.token? other = s.tokens.token? other) :
      Confined r.network used s (fetchToken r key f { s with tokens }).2 := by
    refine ⟨fun other hother => ?_, fun _ _ => rfl, ?_⟩
    · have hne : other ≠ key := by
        rintro rfl
        exact hother e other he hkey rfl
      exact (TokenStore.token?_complete_of_ne _ _ _ _ hne).trans (htokens other)
    · have hadds := Token.adds_requestToken r.network r.tokenTimeout key.clientId f.clientSecret key.tokenUrl s.world
      exact hadds.mono fun x hx => ⟨e, he, .inr ⟨key.tokenUrl, hendpoint, hx⟩⟩
  have henter (other : TokenKey) := TokenStore.token?_enter s.tokens s.world.clock key secret other
  unfold getToken
  split
  · exact .refl _ _ _
  · split
    · rename_i heq
      rw [heq] at henter
      exact ⟨fun other _ => henter other, fun _ _ => rfl, .of_sent_eq rfl⟩
    · rename_i f tokens heq
      rw [heq] at henter
      exact hfetch f tokens henter
    · rename_i f tokens heq
      rw [heq] at henter
      exact hfetch f tokens henter

theorem confined_getCsrfToken (he : used e) {url : String} (hurl : e.strategy.csrf = some url)
    (authorization : Option HeaderValue) : Confined r.network used s (getCsrfToken r url authorization s).2 := by
  have hendpoint : url ∈ e.strategy.endpoints := by simp [Strategy.endpoints, hurl]
  have hadds := Call.adds_request r.network r.tokenTimeout .get url (csrfHeaders authorization) [] s.world
  have hkind (w : World) (x : Sent) (hx : r.network.Reaches s.world.sent w.sent url x) :
      ∃ e, used e ∧ e.Contacts r.network s.world.sent w.sent x := ⟨e, he, .inr ⟨url, hendpoint, hx⟩⟩
  unfold getCsrfToken
  split
  · exact .refl _ _ _
  · split
    · rename_i heq
      rw [heq] at hadds
      exact ⟨fun _ _ => rfl, fun _ _ => rfl, hadds.mono (hkind _)⟩
    · rename_i heq
      rw [heq] at hadds
      split
      · exact ⟨fun _ _ => rfl, fun _ _ => rfl, hadds.mono (hkind _)⟩
      · split
        · exact ⟨fun _ _ => rfl, fun _ _ => rfl, hadds.mono (hkind _)⟩
        · refine ⟨fun _ _ => rfl, fun other hother => ?_, hadds.mono (hkind _)⟩
          have hne : other ≠ url := by
            rintro rfl
            exact hother e he hurl
          exact (CsrfStore.get?_insert _ _ _ _).trans (if_neg hne)

theorem confined_setup (he : used e) (headers : Headers) :
    Confined r.network used s (setup r e.strategy headers s).2 := by
  have hmechanism : Confined r.network used s (setMechanism r e.strategy.mechanism headers s).2 := by
    obtain hsame | ⟨clientId, secret, url, hoauth, hget⟩ := session_setMechanism r e.strategy.mechanism headers s
    · rw [hsame]
      exact .refl _ _ _
    · have hkey : e.strategy.mechanism.key? = some ⟨clientId, url⟩ := by rw [hoauth, Mechanism.key?]
      rw [hget]
      exact confined_getToken he hkey secret
  obtain hsame | ⟨url, authorization, hurl, hget⟩ := session_setup r e.strategy headers s
  · rwa [hsame]
  · rw [hget]
    exact hmechanism.trans (confined_getCsrfToken he hurl authorization)

theorem confined_reset (n : Network) (he : used e) (s : Session) : Confined n used s (s.reset e.strategy) where
  tokens key hkey := token?_reset_of_ne (fun k hk => hkey e k he hk) s
  csrf url hurl := by rw [csrf_reset, if_neg (hurl e he)]
  sent := .of_sent_eq (congrArg World.sent (world_reset e.strategy s))

end Session
end CredentialGateway
