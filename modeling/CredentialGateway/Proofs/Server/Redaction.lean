import CredentialGateway.Proofs.Gateway.Redaction
import CredentialGateway.Proofs.Server.Run

/-! Client secrets and passwords never show: whatever they are, callers get the same, the same is recorded, and all that
can be shown of services, strategies and tokens is the same. -/

namespace CredentialGateway.Server

open Gateway Http

abbrev SameButSecrets : List Service → List Service → Prop :=
  List.Forall₂ (Service.Agree ServiceDefinition.SameButSecrets)

def shownEntry (e : CacheEntry) : String × String × String := (e.service, e.target.text, e.strategy.shown)

theorem shownEntry_eq {v : Veil} {a b : CacheEntry} (h : v.Entries a b) : shownEntry a = shownEntry b := by
  rw [shownEntry, shownEntry, h.service, h.target, h.strategy.shown]

theorem map_eq_of_outcomeRel {ε α β : Type} {R : α → α → Prop} {f : α → β} (hf : ∀ a b, R a b → f a = f b)
    {x y : Except ε α} (h : OutcomeRel R x y) : x.map f = y.map f := by
  cases h with
  | error e => rfl
  | ok hab => exact congrArg Except.ok (hf _ _ hab)

/-- Secrets never show. On a network whose replies do not depend on the bodies and Authorization values of requests, two
servers whose services differ in client secrets and passwords only, then and after each reload, give the same to callers
and record the same; and in the end the same can be shown of each service, of its entry and of the tokens. -/
theorem secrets_never_show (network : Network) (c : Config) (services : List Service) (es es' : List Event)
    (hn : network.IgnoresSecrets) (hservices : SameButSecrets c.services services)
    (hes : List.Forall₂ (Event.Rel SameButSecrets) es es') :
    let one := runOf network c es
    let other := runOf network { c with services } es'
    one.1 = other.1 ∧ one.2.metrics = other.2.metrics ∧ one.2.tokens.shown = other.2.tokens.shown ∧
      ∀ id, (one.2.metadata.lookup one.2.lookups id).map ServiceDefinition.shown =
          (other.2.metadata.lookup other.2.lookups id).map ServiceDefinition.shown ∧
        (one.2.entryFor id).1.map shownEntry = (other.2.entryFor id).1.map shownEntry := by
  intro one other
  have hcovers : Veil.secrets.Covers network := Veil.covers_secrets hn
  obtain ⟨hgiven, hafter⟩ := runOf_agree hcovers c hservices hes
  have hentry (id : String) :=
    State.Agree.entryFor (g := Gateway.ofConfig network c) hcovers hafter id
  obtain ⟨d, e, hd, he, hde⟩ := hafter.directory
  refine ⟨hgiven, hafter.session.metrics, congrArg TokenStore.shown hafter.session.tokens, fun id => ⟨?_, ?_⟩⟩
  · rw [Metadata.lookup_of_directory hd, Metadata.lookup_of_directory he]
    exact map_eq_of_outcomeRel (fun _ _ h => h.shown) (hde.lookup id)
  · exact map_eq_of_outcomeRel (fun _ _ h => shownEntry_eq h) (hentry id).1

namespace Vault

def services (secret password : String) : List Service :=
  [⟨"ledger",
      { targetUrl := "http://[::2]/",
        credentials := some { oauth := some ⟨"ledger", secret, "http://[::1]/token"⟩ } }⟩,
    ⟨"archive", { targetUrl := "http://[::3]/", credentials := some { basic := some ⟨"clerk", password⟩ } }⟩]

def network : Network :=
  { Network.ofRules [⟨"[::1]".toList, none, [.plain 200 "\x7b\x22access_token\x22:\x22t\x22\x7d"]⟩] with
    connects := fun _ => true }

def order (id : String) : Event :=
  .dispatch ⟨.get, .origin "/".toList, Headers.empty.add .host ⟨Bytes.ofText id, false⟩, .whole []⟩

def events (secret password : String) : List Event :=
  [order "ledger", order "archive", .reload (services secret password), order "archive"]

def run (secret password secret' password' : String) : List Given × State :=
  runOf network { services := services secret password } (events secret' password')

theorem services_same {secret password secret' password' : String} (h : secret ≠ "") (h' : secret' ≠ "") :
    SameButSecrets (services secret password) (services secret' password') :=
  .cons ⟨rfl, rfl, .some ⟨.some ⟨rfl, rfl, .inr ⟨h, h'⟩⟩, .none, rfl, rfl⟩⟩
    (.cons ⟨rfl, rfl, .some ⟨.none, .some ⟨rfl⟩, rfl, rfl⟩⟩ .nil)

end Vault

open Vault in
/-- Other secrets change what is sent, and nothing that callers get. -/
theorem vault_never_shows :
    (run "a" "p" "b" "q").2.world.sent ≠ (run "c" "r" "d" "s").2.world.sent ∧
      (run "a" "p" "b" "q").1 = (run "c" "r" "d" "s").1 ∧
      (run "a" "p" "b" "q").2.metrics = (run "c" "r" "d" "s").2.metrics := by
  refine ⟨by decide +kernel, ?_⟩
  have hevents : List.Forall₂ (Event.Rel SameButSecrets) (events "b" "q") (events "d" "s") :=
    .cons (.dispatch _) (.cons (.dispatch _)
      (.cons (.reload (services_same (by decide) (by decide))) (.cons (.dispatch _) .nil)))
  obtain ⟨hgiven, hmetrics, -⟩ := secrets_never_show network { services := services "a" "p" } (services "c" "r")
    (events "b" "q") (events "d" "s") (Network.ignoresSecrets_ofRules _) (services_same (by decide) (by decide)) hevents
  exact ⟨hgiven, hmetrics⟩

end CredentialGateway.Server
