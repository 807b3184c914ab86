import CredentialGateway.Proofs.Gateway.Agreement
import CredentialGateway.Proofs.Network.Bodies

/-! The veil over the client secret of one OAuth client at one token URL: on a network that does not look at the bodies
of token requests, the secret stands in these bodies and nowhere else. -/

namespace CredentialGateway

open Http

/-- Two definitions with other secrets for the client of `key`. An empty secret is none. -/
inductive ServiceDefinition.Twin (key : TokenKey) : ServiceDefinition → ServiceDefinition → Prop
  | same (d : ServiceDefinition) : Twin key d d
  | secret (targetUrl : String) (c : Credentials) {secret secret' : String} (h : secret ≠ "") (h' : secret' ≠ "") :
    Twin key ⟨targetUrl, some { c with oauth := some ⟨key.clientId, secret, key.tokenUrl⟩ }⟩
      ⟨targetUrl, some { c with oauth := some ⟨key.clientId, secret', key.tokenUrl⟩ }⟩

structure Service.Twin (key : TokenKey) (s t : Service) : Prop where
  id : s.id = t.id
  definition : s.definition.Twin key t.definition

/-- Where the body of a token request may go: to the host of its URL, and on from there as redirects resend it. -/
structure Network.Confides (n : Network) (tokenUrl : String) (hosts : List Char → Prop) : Prop where
  blind : n.IsBlind hosts
  keeps : n.KeepsBodies hosts
  endpoint : ∀ u, Url.parse tokenUrl = .ok u → hosts u.server

def Veil.clientSecret (hosts : List Char → Prop) (key : TokenKey) : Veil where
  sent := Sent.Twin hosts
  call := Call.Twin hosts
  headers := Eq
  definition := ServiceDefinition.Twin key

variable {n : Network} {hosts : List Char → Prop} {key : TokenKey}

theorem Veil.clientSecret_refl (m : Mechanism) : (Veil.clientSecret hosts key).Mechanisms m m := by
  cases m with
  | none => exact .none
  | basic => exact .basic fun _ _ hhk => congrArg (Headers.set · .authorization _) hhk
  | oauth => exact .oauth fun _ _ => .refl _

theorem ServiceDefinition.Twin.targetUrl {d e : ServiceDefinition} (h : d.Twin key e) : d.targetUrl = e.targetUrl := by
  cases h <;> rfl

theorem ServiceDefinition.Twin.strategy {d e : ServiceDefinition} (h : d.Twin key e)
    (hendpoint : ∀ u, Url.parse key.tokenUrl = .ok u → hosts u.server) :
    (Veil.clientSecret hosts key).Strategies (.ofCredentials d.credentials) (.ofCredentials e.credentials) := by
  cases h with
  | same => exact ⟨Veil.clientSecret_refl _, rfl⟩
  | secret targetUrl c h h' =>
    refine ⟨?_, rfl⟩
    simp only [Strategy.ofCredentials, Strategy.mechanismOf]
    -- Without a client id there is no mechanism, whatever the secret.
    by_cases hid : key.clientId = ""
    · simp only [hid, Option.filter_some, ne_eq, not_true_eq_false, decide_false, Bool.false_and]
      exact Veil.clientSecret_refl _
    · simp only [hid, h, h', Option.filter_some, ne_eq, not_false_eq_true, decide_true, Bool.and_self]
      exact .oauth fun u hparse => Call.twin_initial (.inr (hendpoint u hparse)) _ _

theorem Veil.covers_clientSecret (hn : n.Confides key.tokenUrl hosts) : (Veil.clientSecret hosts key).Covers n where
  toConceals := Network.conceals_bodies hn.blind hn.keeps
  same _ := rfl
  overwritten _ _ value hhk := congrArg (Headers.set · .authorization value) hhk
  handshake h k u hhk := by
    obtain rfl : h = k := hhk
    exact Call.Twin.refl _
  applied t h k hhk := by
    obtain rfl : h = k := hhk
    exact ⟨rfl, rfl⟩
  attempt a b o h k htarget hhk := by
    obtain rfl : h = k := hhk
    rw [Gateway.callOf, Gateway.callOf, htarget]
    exact Call.Twin.refl _
  defined _ _ h := ⟨h.targetUrl, h.strategy hn.endpoint⟩

end CredentialGateway
