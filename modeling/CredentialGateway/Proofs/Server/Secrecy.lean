import CredentialGateway.Proofs.Gateway.Secrets
import CredentialGateway.Proofs.Server.Run

/-! The client secret of an OAuth service stays with its token endpoint: whatever the secret is, callers get the same,
and every host that token requests are not redirected to receives the same requests. -/

namespace CredentialGateway

open Http

namespace Server
open Gateway

inductive Event.Twin (key : TokenKey) : Event → Event → Prop
  | same (e : Event) (h : ∀ services, e ≠ .reload services) : Twin key e e
  | reload {services services' : List Service} (h : List.Forall₂ (Service.Twin key) services services') :
    Twin key (.reload services) (.reload services')

theorem Event.Twin.rel {key : TokenKey} {e e' : Event} (h : e.Twin key e') :
    e.Rel (List.Forall₂ (Service.Agree (ServiceDefinition.Twin key))) e' := by
  cases h with
  | reload hservices => exact .reload (hservices.imp fun _ _ hst => ⟨hst.id, hst.definition⟩)
  | same _ hreload =>
    cases e with
    | request fresh r => exact .request fresh r
    | dispatch r => exact .dispatch r
    | reload services => exact absurd rfl (hreload services)
    | advance millis => exact .advance millis
    | sweep => exact .sweep

def receivedBy (host : List Char) (s : State) : List Sent := s.world.sent.filter fun r => r.host == host

/-- The client secret of a service stays with its token endpoint. Two servers whose services differ in the secret of one
client only, then and after each reload, give the same to callers, and every host receives the same from both, apart
from the host of the token URL and those to which redirects with 307 or 308 lead from there. -/
theorem secret_stays_with_endpoint (network : Network) (c : Config) (services : List Service) (key : TokenKey)
    (hosts : List Char → Prop) (es es' : List Event) (hn : network.Confides key.tokenUrl hosts)
    (hservices : List.Forall₂ (Service.Twin key) c.services services) (hes : List.Forall₂ (Event.Twin key) es es') :
    (runOf network c es).1 = (runOf network { c with services } es').1 ∧
      ∀ host, ¬ hosts host →
        receivedBy host (runOf network c es).2 = receivedBy host (runOf network { c with services } es').2 := by
  have hagree : List.Forall₂ (Service.Agree (ServiceDefinition.Twin key)) c.services services :=
    hservices.imp fun _ _ hst => ⟨hst.id, hst.definition⟩
  obtain ⟨hgiven, hafter⟩ :=
    runOf_agree (Veil.covers_clientSecret hn) c hagree (hes.imp fun _ _ he => he.rel)
  exact ⟨hgiven, fun host hhost => Sent.filter_host_eq hafter.session.world.sent hhost⟩

namespace Billing

def client : TokenKey := ⟨"billing", "http://[::1]/token"⟩

def service (secret : String) : Service :=
  ⟨"billing",
    { targetUrl := "http://[::2]/", credentials := some { oauth := some ⟨"billing", secret, client.tokenUrl⟩ } }⟩

def config (secret : String) : Config := { services := [service secret] }

def order : Request := ⟨.get, .origin "/".toList, Headers.empty.add .host ⟨Bytes.ofText "billing", false⟩, .whole []⟩

theorem service_twin : (service "a").Twin client (service "b") :=
  ⟨rfl, .secret "http://[::2]/" {} (by decide) (by decide)⟩

def network (answer : Reply) : Network :=
  { Network.ofRules [⟨"[::1]".toList, none, [answer]⟩] with connects := fun _ => true }

def granted : Reply := .plain 200 "\x7b\x22access_token\x22:\x22t\x22\x7d"

def moved : Reply := ⟨307, Headers.empty.add .location ⟨Bytes.ofText "http://[::3]/token", false⟩, [], 0, false, none⟩

def after (answer : Reply) (secret : String) : State := (runOf (network answer) (config secret) [.dispatch order]).2

def isEndpoint (host : List Char) : Prop := host = "[::1]".toList

theorem network_confides : (network granted).Confides client.tokenUrl isEndpoint where
  blind := Network.isBlind_ofRules _ _
  keeps := Network.keepsBodies_ofRules _ (by decide)
  endpoint := by
    have hparse : Url.parse client.tokenUrl =
        .ok ⟨"http".toList, some ⟨[], [], .ipv6 [0, 0, 0, 0, 0, 0, 0, 1], none⟩, "/token".toList, none, none⟩ := rfl
    intro u hu
    rw [hparse] at hu
    cases hu
    rfl

end Billing

section Billing
open Billing

/-- A change of the secret is seen by the endpoint, and not by the target. -/
theorem secret_stays_with_billing :
    receivedBy "[::1]".toList (after granted "a") ≠ receivedBy "[::1]".toList (after granted "b") ∧
      receivedBy "[::2]".toList (after granted "a") = receivedBy "[::2]".toList (after granted "b") :=
  ⟨by decide +kernel,
    (secret_stays_with_endpoint (network granted) (config "a") [service "b"] client isEndpoint [.dispatch order]
      [.dispatch order] network_confides (.cons service_twin .nil)
      (.cons (.same _ fun _ h => nomatch h) .nil)).2 _ (by decide : "[::2]".toList ≠ "[::1]".toList)⟩

/-- An endpoint that answers a token request with 307 has the secret sent to the host that it names. -/
theorem secret_leaves_endpoint :
    (network moved).IsBlind isEndpoint ∧
      List.Forall₂ (Service.Twin client) (config "a").services (config "b").services ∧
      receivedBy "[::3]".toList (after moved "a") ≠ receivedBy "[::3]".toList (after moved "b") :=
  ⟨Network.isBlind_ofRules _ _, .cons service_twin .nil, by decide +kernel⟩

end Billing

end Server
end CredentialGateway
