import CredentialGateway.Proofs.Gateway.Handshake
import CredentialGateway.Proofs.Server.Transparency

/-! Whose session a caller is sent to a target with: one that the CSRF endpoint has handed out in the name of a caller
of the service. The store keeps sessions by endpoint and not by caller, so it is the caller's own session only if all of
them ask in the same name. -/

namespace CredentialGateway.Server

open Http Gateway

def Event.IsAdmitted (url : String) (asked : Option HeaderValue → Prop) : Event → Prop
  | .request _ r | .dispatch r => Gateway.IsAdmitted asked r
  | .reload services => ∀ x ∈ services, x.IsOpen url
  | .advance _ | .sweep => True

variable {g : Gateway} {url : String} {asked : Option HeaderValue → Prop} {r : Request} {s : State}

theorem isAdmitted_withRequestId (fresh : HeaderValue) (h : Gateway.IsAdmitted asked r) :
    Gateway.IsAdmitted asked (withRequestId fresh r) := by
  -- The id is a header of its own: credentials stay, and so does what Connection names.
  have hall {n : HeaderName} (hn : n ≠ .requestId) : (withRequestId fresh r).headers.all n = r.headers.all n := by
    unfold withRequestId
    split
    · rfl
    · exact Headers.all_set_of_ne _ fresh hn
  have hnamed := Headers.named_congr (hall (by decide : HeaderName.connection ≠ .requestId)) .authorization
  have hidentity : identity (withRequestId fresh r) = identity r := by
    have hwithheld : (withRequestId fresh r).headers.Withheld .authorization ↔ r.headers.Withheld .authorization := by
      simp only [Headers.Withheld, hnamed]
    unfold identity
    rw [Headers.get?, Headers.get?, Headers.all_forwardedHeaders, Headers.all_forwardedHeaders, hall (by decide),
      if_congr hwithheld rfl rfl]
  intro htoken
  rw [hidentity]
  refine h ?_
  rwa [Headers.get?, hall (by decide)] at htoken

theorem provides_serve (h : g.Provides url asked s) (fresh : HeaderValue) (hr : Gateway.IsAdmitted asked r) :
    g.Provides url asked (serve g fresh r s).2 := by
  have hforward := h.forward (isAdmitted_withRequestId fresh hr)
  unfold forward at hforward
  unfold serve serveBy
  dsimp only
  split
  · unfold handleBy
    dsimp only
    split
    · exact hforward.record _
    · exact (hforward.record _).finish _
  · exact h

theorem provides_react (h : g.Provides url asked s) {e : Event} (he : e.IsAdmitted url asked) :
    g.Provides url asked (react State.entryFor g e s).2 := by
  cases e with
  | request fresh r => exact provides_serve h fresh he
  | dispatch r => exact h.dispatch he
  | reload services => exact h.reload he
  | advance millis => exact h.advance millis
  | sweep => exact h.evictExpired

theorem provides_reactAll (h : g.Provides url asked s) {es : List Event} (hes : ∀ e ∈ es, e.IsAdmitted url asked) :
    g.Provides url asked (reactAll State.entryFor g es s).2 := by
  induction es generalizing s with
  | nil => exact h
  | cons e es ih =>
    obtain ⟨he, hes⟩ := List.forall_mem_cons.mp hes
    exact ih (provides_react h he) hes

theorem provides_runOf (network : Network) (c : Config) {es : List Event} (hservices : ∀ x ∈ c.services, x.IsOpen url)
    (hes : ∀ e ∈ es, e.IsAdmitted url asked) :
    (Gateway.ofConfig network c).Provides url asked (runOf network c es).2 :=
  provides_reactAll ⟨fun _ ht => (by cases ht), fun _ he => absurd he List.not_mem_nil, _, rfl,
    Directory.isOpen_ofServices hservices⟩ hes

theorem session_of_settled {p : Ready} {t : State} (h : g.Provides url asked s) (hr : Gateway.IsAdmitted asked r)
    (hsettled : g.Settled r s p t) (hcsrf : p.entry.strategy.csrf = some url)
    (htoken : r.headers.get? .accessToken = none) :
    ∃ token authorization, CsrfWritten (Outbound.forwardedHeaders r.headers) p.headers (some token) ∧
      asked authorization ∧ Session.HandedOut g.toReach url t.world authorization token := by
  obtain ⟨hout, u, hsettle⟩ := hsettled.settle
  obtain ⟨-, -, -, hheaders⟩ := outboundOf_spec hout
  obtain ⟨-, hauthorize, -⟩ := settle_spec hsettle
  have hnone : p.outbound.accessToken = none := by rw [accessToken_of_outboundOf hout, htoken, Option.map_none]
  have hsetup := setup_of_authorize hnone hauthorize
  obtain ⟨token, hget⟩ := Session.token_of_setup hcsrf hsetup
  obtain ⟨-, hwritten⟩ := Session.setup_spec hsetup
  obtain ⟨authorization, hasked, hhanded⟩ := (h.settled hr hsettled).session token hget
  rw [hcsrf, Option.bind_some, hget, hheaders] at hwritten
  exact ⟨token, authorization, hwritten, hasked, hhanded⟩

/-- An attempt for a caller carries a session that the endpoint has handed out in the name of one of those who may ask.
If all of them ask in one name, that is the name; the store itself does not tell callers apart. -/
theorem csrf_session_of_admitted (network : Network) (c : Config) (es : List Event) (r : Request) (url : String)
    (asked : Option HeaderValue → Prop) (hservices : ∀ x ∈ c.services, x.IsOpen url)
    (hes : ∀ e ∈ es, e.IsAdmitted url asked) (hr : Gateway.IsAdmitted asked r) :
    let g := Gateway.ofConfig network c
    let s := (runOf network c es).2
    ∃ made, (g.dispatch r s).2.attempts = s.attempts ++ made ∧
      ∀ a ∈ made, ∃ p t, g.Settled r s p t ∧ a.call = callOf p.entry p.outbound p.headers ∧
        (p.entry.strategy.csrf = some url → r.headers.get? .accessToken = none →
          ∃ token authorization, CsrfWritten (Outbound.forwardedHeaders r.headers) a.call.headers (some token) ∧
            asked authorization ∧ Session.HandedOut g.toReach url t.world authorization token) := by
  intro g s
  have hprovides : g.Provides url asked s := provides_runOf network c hservices hes
  obtain ⟨made, hcourse⟩ := forward_course g r s
  obtain ⟨hattempts, -⟩ := attempts_dispatch g r s
  refine ⟨made, hattempts.trans hcourse.attempts, fun a ha => ?_⟩
  obtain ⟨p, t, hsettled, rfl⟩ := hcourse.settled a ha
  refine ⟨p, t, hsettled, rfl, fun hcsrf htoken => ?_⟩
  obtain ⟨token, authorization, hwritten, hasked, hhanded⟩ := session_of_settled hprovides hr hsettled hcsrf htoken
  have hplain {n : HeaderName} := all_callOf_of_ne p.entry p.outbound p.headers (n := n)
  exact ⟨token, authorization,
    hwritten.congr_right (hplain (by decide) (by decide)) (hplain (by decide) (by decide)), hasked, hhanded⟩

namespace Portal

def config : Config :=
  { services :=
      [⟨"portal", { targetUrl := "http://[::2]/", credentials := some { csrf := some ⟨"http://[::1]/csrf"⟩ } }⟩] }

def network : Network where
  connects _ := true
  reply _ s :=
    if s.host = "[::1]".toList then
      ⟨200, (Headers.empty.add .csrfToken ⟨Bytes.ofText "t", false⟩).add .setCookie
        ⟨((s.headers.get? .authorization).map HeaderValue.bytes).getD [], false⟩, [], 0, false, none⟩
    else ⟨200, .empty, [], 0, false, none⟩

def order (caller : String) : Request :=
  ⟨.get, .origin "/".toList,
    (Headers.empty.add .host ⟨Bytes.ofText "portal", false⟩).add .authorization ⟨Bytes.ofText caller, false⟩, .whole []⟩

def seen (s : Sent) : List Char × List HeaderValue × List HeaderValue :=
  (s.host, s.headers.all .authorization, s.headers.all .cookie)

def value (text : String) : HeaderValue := ⟨Bytes.ofText text, false⟩

theorem isOpen_services : ∀ x ∈ config.services, x.IsOpen "http://[::1]/csrf" := by
  intro x hx _
  obtain rfl := List.mem_singleton.mp hx
  rfl

end Portal

section Portal
open Portal

/-- Where one caller asks, each attempt is made with a session of that caller. -/
theorem csrf_session_of_alice :
    let g := Gateway.ofConfig network config
    let s := (runOf network config [.dispatch (order "alice")]).2
    (g.dispatch (order "alice") s).2.attempts.length = 2 ∧
      ∃ made, (g.dispatch (order "alice") s).2.attempts = s.attempts ++ made ∧
        ∀ a ∈ made, ∃ p t, g.Settled (order "alice") s p t ∧
          (p.entry.strategy.csrf = some "http://[::1]/csrf" →
            ∃ token, Session.HandedOut g.toReach "http://[::1]/csrf" t.world (some (value "alice")) token) := by
  intro g s
  refine ⟨by decide +kernel, ?_⟩
  obtain ⟨made, hattempts, hmade⟩ := csrf_session_of_admitted network config [.dispatch (order "alice")] (order "alice")
    "http://[::1]/csrf" (· = some (value "alice")) isOpen_services
    (fun e he => by
      obtain rfl := List.mem_singleton.mp he
      exact fun _ => by decide) (fun _ => by decide)
  refine ⟨made, hattempts, fun a ha => ?_⟩
  obtain ⟨p, t, hsettled, -, hsession⟩ := hmade a ha
  refine ⟨p, t, hsettled, fun hcsrf => ?_⟩
  obtain ⟨token, authorization, -, rfl, hhanded⟩ := hsession hcsrf rfl
  exact ⟨token, hhanded⟩

/-- A second caller is sent to the target with the session that the endpoint has handed out to the first. -/
theorem csrf_session_of_other :
    (runOf network config [.dispatch (order "alice"), .dispatch (order "bob")]).2.world.sent.map seen =
      [("[::1]".toList, [value "alice"], []), ("[::2]".toList, [value "alice"], [value "alice"]),
        ("[::2]".toList, [value "bob"], [value "alice"])] := by
  decide +kernel

end Portal

end CredentialGateway.Server
