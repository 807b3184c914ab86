import CredentialGateway.Proofs.Gateway.Renewal
import CredentialGateway.Proofs.Server.Transparency

/-! What follows a 403: the request is sent again with secrets that were asked for after it, and so are all later requests
of the service, until the secrets expire or are dropped again. -/

namespace CredentialGateway

open Http

namespace Server
open Gateway

def Event.forwarded? : Event → Option Request
  | .request fresh r => if isRouted (withRequestId fresh r) then some (withRequestId fresh r) else none
  | .dispatch r => some r
  | .reload _ | .advance _ | .sweep => none

def Resets (g : Gateway) (resets : Strategy → Prop) : List Event → State → Prop
  | [], _ => True
  | e :: es, s =>
    (∀ r p u, e.forwarded? = some r → g.Refused r s p u → resets p.entry.strategy) ∧
      Resets g resets es (react State.entryFor g e s).2

variable {g : Gateway} {resets : Strategy → Prop} {P : Session → Prop} {r : Request} {s : State} {e : Event}

theorem reactAll_append (find : Finding) (g : Gateway) (es later : List Event) (s : State) :
    (reactAll find g (es ++ later) s).2 = (reactAll find g later (reactAll find g es s).2).2 := by
  induction es generalizing s with
  | nil => rfl
  | cons e es ih => exact ih (react find g e s).2

theorem react_of_forward {Q : State → Prop} (hrecord : ∀ t m, Q t → Q (t.record m))
    (hfinish : ∀ t received, Q t → Q (finish received t).2) (he : e.forwarded? = some r) (hforward : Q (g.forward r s).2) :
    Q (react State.entryFor g e s).2 := by
  -- Behind the forwarding come only a record and the reading of the body.
  cases e with
  | request fresh r' =>
    have hhandle : Q (handleBy State.entryFor g r s).2 := by
      unfold forward at hforward
      unfold handleBy
      rcases hpair : forwardBy State.entryFor g r s with ⟨err | received, t⟩
      · rw [hpair] at hforward
        exact hrecord t _ hforward
      · rw [hpair] at hforward
        exact hfinish _ received (hrecord t _ hforward)
    simp only [Event.forwarded?] at he
    split at he
    · rename_i hrouted
      cases he
      simp only [react, serveBy, hrouted, if_true]
      exact hhandle
    · cases he
  | dispatch r' =>
    cases he
    have hdispatch : Q (g.dispatch r s).2 := by
      rcases hpair : g.forward r s with ⟨err | received, t⟩
      · rw [hpair] at hforward
        rwa [dispatch_error hpair]
      · rw [hpair] at hforward
        rw [dispatch_ok hpair]
        exact hfinish t received hforward
    exact hdispatch
  | reload services => cases he
  | advance millis => cases he
  | sweep => cases he

theorem kept_forwarded (h : Session.Kept g.toReach resets P) (he : e.forwarded? = some r)
    (hforward : P (g.forward r s).2.toSession) : P (react State.entryFor g e s).2.toSession :=
  react_of_forward (Q := fun t => P t.toSession) (fun _ m ht => h.record ht m) (fun _ received ht => h.finish ht received)
    he hforward

theorem kept_react (h : Session.Kept g.toReach resets P) (hs : P s.toSession)
    (hresets : ∀ r p u, e.forwarded? = some r → g.Refused r s p u → resets p.entry.strategy) :
    P (react State.entryFor g e s).2.toSession := by
  cases he : e.forwarded? with
  | some r => exact kept_forwarded h he (h.forward hs fun p u => hresets r p u he)
  | none =>
    cases e with
    | request fresh r =>
      simp only [Event.forwarded?] at he
      split at he
      · cases he
      · rename_i hrouted
        simp only [react, serveBy, hrouted]
        exact hs
    | dispatch r => cases he
    | reload services => exact h.untouched s.toSession _ ⟨rfl, rfl, rfl⟩ hs
    | advance millis => exact h.later s.toSession _ (.advance s.world millis) hs
    | sweep => exact h.untouched s.toSession _ ⟨rfl, rfl, rfl⟩ hs

theorem kept_reactAll (h : Session.Kept g.toReach resets P) {es : List Event} (hs : P s.toSession)
    (hresets : Resets g resets es s) : P (reactAll State.entryFor g es s).2.toSession := by
  induction es generalizing s with
  | nil => exact hs
  | cons e es ih => exact ih (kept_react h hs hresets.1) hresets.2

theorem runOf_append (network : Network) (c : Config) (es later : List Event) :
    (runOf network c (es ++ later)).2 =
      (reactAll State.entryFor (Gateway.ofConfig network c) later (runOf network c es).2).2 :=
  reactAll_append State.entryFor _ es later _

theorem backs_runOf (network : Network) (c : Config) (es : List Event) :
    ∃ d, (runOf network c es).2.metadata = .directory d ∧ ∀ e ∈ (runOf network c es).2.cache.entries, d.Backs e := by
  obtain ⟨-, hmirrors⟩ := reactAll_mirrors (mirrors_start c (.ofServices c.services)) (Gateway.ofConfig network c) es
  obtain ⟨d, hd, -, hbacks⟩ := hmirrors.directory
  exact ⟨d, hd, hbacks⟩

theorem idle_runOf (network : Network) (c : Config) (es : List Event) : (runOf network c es).2.toSession.Idle := by
  have hall (es : List Event) (s : State) : Resets (Gateway.ofConfig network c) (fun _ => True) es s := by
    induction es generalizing s with
    | nil => trivial
    | cons e es ih => exact ⟨fun _ _ _ _ _ => trivial, ih _⟩
  exact kept_reactAll (Session.kept_idle _) rfl (hall es _)

theorem course_of_event (he : e.forwarded? = some r) :
    ∃ made, Course g r s made (g.forward r s).1 (g.forward r s).2 ∧
      (react State.entryFor g e s).2.attempts = s.attempts ++ made := by
  obtain ⟨made, hcourse⟩ := forward_course g r s
  refine ⟨made, hcourse, ?_⟩
  exact react_of_forward (Q := fun t => t.attempts = s.attempts ++ made) (fun _ _ ht => ht) (fun _ _ ht => ht) he
    hcourse.attempts

/-- If two attempts are made for a request, the first one was answered 403, and the second one carries secrets that the
endpoints were asked for after that. From then on requests of the service are prepared with the same secrets and without
anything being sent, as long as its definition is the same, the bearer token is valid, and no 403 has had secrets dropped
that its strategy shares. -/
theorem replay_renews_secrets (network : Network) (c : Config) (es : List Event) (e : Event) (r : Request) (a b : Attempt)
    (he : e.forwarded? = some r) (hown : r.headers.get? .accessToken = none)
    (hmade : (runOf network c (es ++ [e])).2.attempts = (runOf network c es).2.attempts ++ [a, b]) :
    let g := Gateway.ofConfig network c
    let s := (runOf network c es).2
    let after := (runOf network c (es ++ [e])).2
    ∃ p u q v, g.Refused r s p u ∧ g.renew p u = (.ok q, v) ∧ IsForbidden a.result ∧
      q.entry.strategy = p.entry.strategy ∧
      let secrets := v.toSession.secrets q.entry.strategy
      secrets.Renewed g.toReach q.entry.strategy u.world v.world ∧
        secrets.WrittenOn (Outbound.forwardedHeaders r.headers) b.call.headers ∧
        ∀ later r' o',
          let x := (runOf network c (es ++ e :: later)).2
          Resets g (fun other => ¬ other.Shares q.entry.strategy) later after →
          x.metadata.lookup x.lookups p.service = s.metadata.lookup s.lookups p.service →
          let arrived := g.awaitBody r' x
          secrets.IsValid arrived.world.clock → r'.headers.get? .accessToken = none →
          g.outboundOf r' = .ok (p.service, o') →
          ∃ p' x', g.prepare r' x = (.ok p', x') ∧ x'.world = arrived.world ∧
            ∀ result, secrets.WrittenOn (Outbound.forwardedHeaders r'.headers) (p'.attempt result).call.headers := by
  intro g s after
  have hafter : after = (react State.entryFor g e s).2 := runOf_append network c es [e]
  obtain ⟨made, hcourse, hattempts⟩ := course_of_event (g := g) (s := s) he
  rw [← hafter] at hattempts
  obtain rfl : made = [a, b] := List.append_cancel_left (hattempts.symm.trans hmade)
  -- Two attempts are made in one course only.
  obtain ⟨p, u, q, v, w, hrefused, hrenew, hsecond, hforbidden, rfl, hforward⟩ := hcourse.renewal
  obtain ⟨d, hd, hbacks⟩ := backs_runOf network c es
  obtain ⟨hback, hservice, hdirectory⟩ := backs_of_refused hd hbacks hrefused
  obtain ⟨halike, hbackq⟩ := alike_of_renew hdirectory hback hservice hrenew
  obtain ⟨htoken, hheaders⟩ := outbound_of_refused hown hrefused
  obtain ⟨hrenewed, hwritten, hidle⟩ :=
    renewed_of_renew (idle_of_refused (idle_runOf network c es) hrefused) halike.strategy htoken hrenew
  refine ⟨p, u, q, v, hrefused, hrenew, hforbidden, halike.strategy, hrenewed, ?_, ?_⟩
  · rw [← hheaders]
    exact written_callOf hwritten q.entry q.outbound
  · intro later r' o' x hresets hlookup arrived hvalid hown' hout
    have hholds := Session.kept_holds g.toReach q.entry.strategy (v.toSession.secrets q.entry.strategy)
    have hwas : Session.Holds q.entry.strategy (v.toSession.secrets q.entry.strategy) after.toSession := by
      rw [hafter]
      refine kept_forwarded hholds he ?_
      rw [hforward]
      -- After the renewal comes only the second attempt, and a 403 for it drops nothing.
      exact hholds.record (hholds.tryOnce (Session.holds_secrets hidle) hsecond) _
    have hrun : x = (reactAll State.entryFor g later after).2 := by
      have hsplit : es ++ e :: later = (es ++ [e]) ++ later := by simp
      exact (congrArg (fun events => (runOf network c events).2) hsplit).trans (runOf_append network c (es ++ [e]) later)
    have hstill : Session.Holds q.entry.strategy (v.toSession.secrets q.entry.strategy) x.toSession := by
      rw [hrun]
      exact kept_reactAll hholds hwas hresets
    obtain ⟨d', hd', hbacks'⟩ := backs_runOf network c (es ++ e :: later)
    have hname : q.entry.service = p.service := halike.service.trans hservice
    -- The definition is the same, so what the old directory backs is backed by the new one.
    have hbackx : d'.Backs q.entry := by
      rw [Metadata.lookup_of_directory hd', Metadata.lookup_of_directory hd] at hlookup
      obtain ⟨definition, hdefinition, hbuilt⟩ := hbackq
      exact ⟨definition, by rw [hname, hlookup, ← hname, hdefinition], hbuilt⟩
    exact prepare_again hd' hbacks' hbackx hstill hrenewed hwritten hvalid (hname ▸ hout) hown'

namespace Relay

def config : Config :=
  { services :=
      [⟨"relay",
        { targetUrl := "http://[::2]/"
          credentials := some
            { oauth := some ⟨"relay", "a", "http://[::1]/token"⟩, csrf := some ⟨"http://[::1]/csrf"⟩ } }⟩] }

def network : Network where
  connects _ := true
  reply before s :=
    let token := Bytes.ofChars ('t' :: List.replicate before.length 'x')
    if s.host = "[::1]".toList then
      ⟨200, Headers.empty.add .csrfToken ⟨token, false⟩,
        Bytes.ofText "\x7b\x22access_token\x22:\x22" ++ token ++ Bytes.ofText "\x22\x7d", 0, false, none⟩
    else
      ⟨if s.headers.get? .authorization = some ⟨Bytes.ofText "Bearer t", true⟩ then 403 else 200, .empty, [], 0, false, none⟩

def relay : Gateway := .ofConfig network config

def order : Request := ⟨.get, .origin "/".toList, Headers.empty.add .host ⟨Bytes.ofText "relay", false⟩, .whole []⟩

def renewal? (r : Request) (s : State) : Option (String × Option CachedToken) :=
  match relay.prepare r s with
  | (.error _, _) => none
  | (.ok p, t) =>
    match relay.renew p (relay.tryOnce p t).2 with
    | (.error _, _) => none
    | (.ok q, v) => some (p.service, (v.toSession.secrets q.entry.strategy).bearer)

end Relay

section Relay
open Relay

/-- The token that follows the refused one is used again when a second has passed and the cache was swept. -/
theorem replay_renews_relay :
    let after := (runOf network config [.dispatch order]).2
    let x := (runOf network config [.dispatch order, .advance 1000, .sweep]).2
    after.attempts.length = 2 ∧
      ∃ p x', relay.prepare order x = (.ok p, x') ∧ x'.world = (relay.awaitBody order x).world ∧
      ∀ result, (p.attempt result).call.headers.all .authorization = [⟨Bytes.ofText "Bearer txxx", true⟩] := by
  intro after x
  have hlength : after.attempts.length = 2 := by decide +kernel
  refine ⟨hlength, ?_⟩
  obtain ⟨a, b, hmade⟩ := List.length_eq_two.mp hlength
  obtain ⟨p, u, q, v, ⟨t, result, hprepare, hfirst, received, rfl, hstatus⟩, hrenew, -, -, -, -, hlater⟩ :=
    replay_renews_secrets network config [] (.dispatch order) order a b rfl (by decide) hmade
  have hcourse : renewal? order (runOf network config []).2 = some ("relay", some ⟨"txxx", none⟩) := by decide +kernel
  change relay.prepare order (runOf network config []).2 = _ at hprepare
  change relay.tryOnce p t = _ at hfirst
  change relay.renew p u = _ at hrenew
  simp only [renewal?, hprepare, hfirst, hrenew, Option.some.injEq, Prod.mk.injEq] at hcourse
  obtain ⟨hservice, hbearer⟩ := hcourse
  obtain ⟨p', x', hprepare', hworld, hwritten⟩ :=
    hlater [.advance 1000, .sweep] order p.outbound
      ⟨fun _ _ _ he => (by cases he), fun _ _ _ he => (by cases he), trivial⟩ (by rw [hservice]; decide +kernel)
      (fun token htoken => by rw [hbearer] at htoken; cases htoken; rfl) (by decide) (prepare_spec hprepare).1
  refine ⟨p', x', hprepare', hworld, fun result => ?_⟩
  obtain ⟨value, hvalue, hall⟩ := (hwritten result).bearer _ hbearer
  rw [hall]
  cases hvalue
  rfl

end Relay

end Server
end CredentialGateway
