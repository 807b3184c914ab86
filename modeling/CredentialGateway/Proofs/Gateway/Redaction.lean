import CredentialGateway.Network.Rules
import CredentialGateway.Proofs.Gateway.Agreement
import CredentialGateway.Proofs.Gateway.Session

/-! The veil over all client secrets and passwords. Behind it are the bodies of requests and their Authorization values,
and nothing of what is shown of services, strategies and tokens. -/

namespace CredentialGateway

open Http

def Http.Headers.SameButAuthorization (h k : Headers) : Prop := h.erase .authorization = k.erase .authorization

structure OAuthCredentials.SameButSecret (a b : OAuthCredentials) : Prop where
  clientId : a.clientId = b.clientId
  tokenUrl : a.tokenUrl = b.tokenUrl
  /-- An empty secret is none. -/
  secret : a.clientSecret = b.clientSecret ∨ a.clientSecret ≠ "" ∧ b.clientSecret ≠ ""

structure BasicCredentials.SameButPassword (a b : BasicCredentials) : Prop where
  username : a.username = b.username

structure Credentials.SameButSecrets (a b : Credentials) : Prop where
  oauth : Option.Rel OAuthCredentials.SameButSecret a.oauth b.oauth
  basic : Option.Rel BasicCredentials.SameButPassword a.basic b.basic
  certificate : a.certificate = b.certificate
  csrf : a.csrf = b.csrf

structure ServiceDefinition.SameButSecrets (d e : ServiceDefinition) : Prop where
  targetUrl : d.targetUrl = e.targetUrl
  credentials : Option.Rel Credentials.SameButSecrets d.credentials e.credentials

def Sent.redacted (s : Sent) : Sent := { s with headers := s.headers.erase .authorization, body := [] }

structure Call.SameButSecrets (c d : Call) : Prop where
  method : c.method = d.method
  url : c.url = d.url
  headers : c.headers.SameButAuthorization d.headers

/-- Replies do not depend on the bodies of requests and on their Authorization values. -/
def Network.IgnoresSecrets (n : Network) : Prop :=
  ∀ before after s t, before.map Sent.redacted = after.map Sent.redacted → s.redacted = t.redacted →
    n.reply before s = n.reply after t

theorem Network.ignoresSecrets_ofRules (rules : List Rule) : (ofRules rules).IgnoresSecrets := by
  have hredacted (before : List Sent) (s : Sent) :
      replyOf rules before s = replyOf rules (before.map Sent.redacted) s.redacted := by
    have hrule (s : Sent) : ruleOf rules s.redacted = ruleOf rules s := rfl
    have hturn (i : Nat) : ((before.map Sent.redacted).filter fun t => ruleOf rules t == some i).length =
        (before.filter fun t => ruleOf rules t == some i).length := by
      rw [List.filter_map, List.length_map]
      rfl
    simp only [replyOf, hrule, hturn]
  intro before after s t hbefore hst
  change replyOf rules before s = replyOf rules after t
  rw [hredacted, hredacted after, hbefore, hst]

def Veil.secrets : Veil where
  sent s t := s.redacted = t.redacted
  call := Call.SameButSecrets
  headers := Headers.SameButAuthorization
  definition := ServiceDefinition.SameButSecrets

namespace Http.Headers.SameButAuthorization

variable {h k h' k' : Headers} {n : HeaderName} {v v' : HeaderValue}

theorem refl (h : Headers) : h.SameButAuthorization h := rfl

theorem all (hhk : h.SameButAuthorization k) (hn : n ≠ .authorization) : h.all n = k.all n := by
  rw [← all_erase_of_ne h .authorization n hn, hhk, all_erase_of_ne k .authorization n hn]

theorem erase (hhk : h.SameButAuthorization k) (n : HeaderName) : (h.erase n).SameButAuthorization (k.erase n) := by
  rw [SameButAuthorization, erase_erase_comm h, hhk, erase_erase_comm k]

theorem set (hhk : h.SameButAuthorization k) (hn : n ≠ .authorization) (v : HeaderValue) :
    (h.set n v).SameButAuthorization (k.set n v) := by
  rw [SameButAuthorization, erase_set_of_ne h _ _ _ hn, hhk, erase_set_of_ne k _ _ _ hn]

theorem setAuthorization (hhk : h.SameButAuthorization k) :
    (h.set .authorization v).SameButAuthorization (k.set .authorization v') := by
  rw [SameButAuthorization, erase_set_self, erase_set_self, hhk]

theorem override (hhk : h.SameButAuthorization k) (hhk' : h'.SameButAuthorization k') :
    (h.override h').SameButAuthorization (k.override k') := by
  rw [SameButAuthorization, erase_override, erase_override, hhk, hhk']

theorem withAccept (hhk : h.SameButAuthorization k) :
    (Call.withAccept h).SameButAuthorization (Call.withAccept k) := by
  unfold Call.withAccept
  rw [contains_congr .accept (hhk.all (by decide))]
  split
  · exact hhk
  · rw [SameButAuthorization, erase_add_of_ne h _ _ _ (by decide), hhk, erase_add_of_ne k _ _ _ (by decide)]

theorem withReferer (hhk : h.SameButAuthorization k) (previous next : Url) :
    (Call.withReferer previous next h).SameButAuthorization (Call.withReferer previous next k) := by
  unfold Call.withReferer
  split
  · exact hhk
  · exact hhk.set (by decide) _

theorem csrfHeaders (h : Headers) (authorization authorization' : Option HeaderValue) :
    (Session.csrfHeaders authorization h).SameButAuthorization (Session.csrfHeaders authorization' h) := by
  have hplain (a : Option HeaderValue) :
      (Session.csrfHeaders a h).SameButAuthorization (h.add .csrfToken Session.fetchWord) := by
    cases a with
    | none => exact refl _
    | some v => exact erase_add_self _ _ _
  exact (hplain authorization).trans (hplain authorization').symm

theorem apply (hhk : h.SameButAuthorization k) (t : CsrfToken) :
    (t.apply h).1.SameButAuthorization (t.apply k).1 ∧ (t.apply h).2 = (t.apply k).2 := by
  unfold CsrfToken.apply
  split
  · exact ⟨hhk, rfl⟩
  · rename_i token _
    have hset := hhk.set (n := .csrfToken) (by decide) token
    dsimp only
    rw [callerCookies_congr (hset.all (by decide))]
    split
    · exact ⟨hset, rfl⟩
    · split
      · exact ⟨hset, rfl⟩
      · exact ⟨hset.set (by decide) _, rfl⟩

end Http.Headers.SameButAuthorization

namespace Call.SameButSecrets

variable {c d : Call}

theorem initial (method : Method) (u : Url) (headers : Headers → Headers) (body body' : Bytes) :
    (Call.initial method u headers body).SameButSecrets (Call.initial method u headers body') :=
  ⟨rfl, rfl, .refl _⟩

theorem sent (h : c.SameButSecrets d) : c.sent.redacted = d.sent.redacted := by
  have hheaders : (c.headers.erase .host |>.erase .contentLength).erase .authorization =
      (d.headers.erase .host |>.erase .contentLength).erase .authorization := (h.headers.erase .host).erase .contentLength
  unfold Call.sent Sent.redacted
  rw [h.method, h.url, hheaders]

theorem redirected (h : c.SameButSecrets d) (status : Nat) (next : Url) :
    (c.redirected status next).SameButSecrets (d.redirected status next) := by
  refine ⟨?_, rfl, ?_⟩
  · unfold Call.redirected
    rw [h.method]
  · unfold Call.redirected
    dsimp only
    rw [h.url]
    refine Headers.SameButAuthorization.withReferer ?_ _ _
    have hkept : (if status = 307 ∨ status = 308 then c.headers else c.headers.erase .contentType).SameButAuthorization
        (if status = 307 ∨ status = 308 then d.headers else d.headers.erase .contentType) := by
      split
      · exact h.headers
      · exact h.headers.erase _
    split
    · exact hkept
    · exact (hkept.erase _).erase _

theorem callOf {a b : CacheEntry} {h k : Headers} (hab : a.target = b.target) (hhk : h.SameButAuthorization k)
    (o : Outbound) : (Gateway.callOf a o h).SameButSecrets (Gateway.callOf b o k) := by
  unfold Gateway.callOf
  rw [hab]
  rcases Call.splitUserInfo (b.target.join o.pathAndQuery) with ⟨url, credentials⟩
  have hheaders : (Call.withAccept ((Call.urlHeaders credentials).override h)).SameButAuthorization
      (Call.withAccept ((Call.urlHeaders credentials).override k)) :=
    (Headers.SameButAuthorization.override (.refl _) hhk).withAccept
  exact ⟨rfl, rfl, hheaders⟩

end Call.SameButSecrets

theorem OAuthCredentials.SameButSecret.shown {a b : OAuthCredentials} (h : a.SameButSecret b) : a.shown = b.shown := by
  rw [OAuthCredentials.shown, OAuthCredentials.shown, h.clientId, h.tokenUrl]

theorem BasicCredentials.SameButPassword.shown {a b : BasicCredentials} (h : a.SameButPassword b) :
    a.shown = b.shown := by
  rw [BasicCredentials.shown, BasicCredentials.shown, h.username]

theorem map_eq_of_rel {α β : Type} {R : α → α → Prop} {f : α → β} (hf : ∀ a b, R a b → f a = f b) {x y : Option α}
    (h : Option.Rel R x y) : x.map f = y.map f := by
  cases h with
  | none => rfl
  | some hab => exact congrArg some (hf _ _ hab)

theorem Credentials.SameButSecrets.shown {a b : Credentials} (h : a.SameButSecrets b) : a.shown = b.shown := by
  rw [Credentials.shown, Credentials.shown, map_eq_of_rel (fun _ _ h => h.shown) h.oauth,
    map_eq_of_rel (fun _ _ h => h.shown) h.basic, h.certificate, h.csrf]

theorem ServiceDefinition.SameButSecrets.shown {d e : ServiceDefinition} (h : d.SameButSecrets e) :
    d.shown = e.shown := by
  rw [ServiceDefinition.shown, ServiceDefinition.shown, h.targetUrl, map_eq_of_rel (fun _ _ h => h.shown) h.credentials]

theorem Veil.Strategies.shown {v : Veil} {x y : Strategy} (h : v.Strategies x y) : x.shown = y.shown := by
  obtain ⟨mechanism, csrf⟩ := x
  obtain ⟨mechanism', csrf'⟩ := y
  obtain ⟨hmechanism, rfl⟩ := h
  cases hmechanism <;> rfl

theorem rel_filter {α : Type} {R : α → α → Prop} {p : α → Bool} (hp : ∀ a b, R a b → p a = p b) {x y : Option α}
    (h : Option.Rel R x y) : Option.Rel R (x.filter p) (y.filter p) := by
  cases h with
  | none => exact .none
  | @some a b hab =>
    rw [Option.filter_some, Option.filter_some, hp a b hab]
    split
    · exact .some hab
    · exact .none

theorem Credentials.SameButSecrets.mechanism {a b : Credentials} (h : a.SameButSecrets b) :
    Veil.secrets.Mechanisms (Strategy.mechanismOf a) (Strategy.mechanismOf b) := by
  have hoauth := rel_filter (p := fun o => o.clientId ≠ "" && o.clientSecret ≠ "") (fun x y hxy => ?_) h.oauth
  have hbasic := rel_filter (p := fun c => c.username ≠ "") (fun x y hxy => ?_) h.basic
  · unfold Strategy.mechanismOf
    generalize a.oauth.filter _ = x, b.oauth.filter _ = y at hoauth
    cases hoauth with
    | @some x y hxy =>
      dsimp only
      rw [hxy.clientId, hxy.tokenUrl]
      exact .oauth fun u _ => .initial .post u _ _ _
    | none =>
      generalize a.basic.filter _ = x, b.basic.filter _ = y at hbasic
      cases hbasic with
      | @some x y hxy =>
        dsimp only
        rw [hxy.username]
        exact .basic fun _ _ hhk => hhk.setAuthorization
      | none => exact .none
  · rw [hxy.username]
  · rcases hxy.secret with hsecret | ⟨hx, hy⟩
    · rw [hxy.clientId, hsecret]
    · simp [hxy.clientId, hx, hy]

theorem ServiceDefinition.SameButSecrets.strategy {d e : ServiceDefinition} (h : d.SameButSecrets e) :
    Veil.secrets.Strategies (.ofCredentials d.credentials) (.ofCredentials e.credentials) := by
  have hcredentials := h.credentials
  generalize d.credentials = x, e.credentials = y at hcredentials
  cases hcredentials with
  | none => exact ⟨.none, rfl⟩
  | some hab => exact ⟨hab.mechanism, congrArg (Option.map CsrfEndpoint.tokenUrl) hab.csrf⟩

theorem Veil.covers_secrets {n : Network} (hn : n.IgnoresSecrets) : Veil.secrets.Covers n where
  reply before after s t hbefore hst := by
    refine hn before after s t ?_ hst
    rw [← List.forall₂_eq_eq_eq, List.forall₂_map_left_iff, List.forall₂_map_right_iff]
    exact hbefore
  method _ _ h := h.method
  url _ _ h := h.url
  sent _ _ h := h.sent
  redirected _ _ _ r next h _ _ := h.redirected r.status next
  same := .refl
  overwritten _ _ _ h := h.setAuthorization
  handshake _ _ _ _ := ⟨rfl, rfl, (Headers.SameButAuthorization.csrfHeaders _ _ _).withAccept⟩
  applied t _ _ h := h.apply t
  attempt _ _ o _ _ htarget h := .callOf htarget h o
  defined _ _ h := ⟨h.targetUrl, h.strategy⟩

end CredentialGateway
