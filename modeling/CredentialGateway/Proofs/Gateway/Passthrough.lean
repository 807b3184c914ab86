import CredentialGateway.Proofs.Gateway.Entries
import CredentialGateway.Proofs.Gateway.Forwarded

/-! Requests that bring a token of their own. Nothing is sent for them but their attempts, and the secrets of their
services stay as they are, with one exception: a first attempt that is answered 403 drops them, though it was not made
with them. -/

namespace CredentialGateway

open Http

theorem Attempt.Made.sublist {n : Network} {timeout : Nat} {a : Attempt} {w w' : World}
    (h : Attempt.Made n timeout a w w') : ∃ sent, w'.sent = w.sent ++ sent ∧ sent.Sublist [a.call.sent] := by
  obtain hnone | hone := h.sent
  · exact ⟨[], hnone.trans (List.append_nil _).symm, List.nil_sublist _⟩
  · exact ⟨[a.call.sent], hone, List.Sublist.refl _⟩

namespace Session

structure SameSecrets (s t : Session) : Prop where
  tokens : t.tokens = s.tokens
  csrf : t.csrf = s.csrf

variable {s t : Session}

theorem SameSecrets.trans {u : Session} (h : s.SameSecrets t) (h' : t.SameSecrets u) : s.SameSecrets u :=
  ⟨h'.tokens.trans h.tokens, h'.csrf.trans h.csrf⟩

theorem Untouched.sameSecrets (h : s.Untouched t) : s.SameSecrets t := ⟨h.tokens, h.csrf⟩

end Session

namespace Gateway

def SentBy (made : List Attempt) (s t : State) : Prop :=
  ∃ sent, t.world.sent = s.world.sent ++ sent ∧ sent.Sublist (made.map fun a => a.call.sent)

/-- What a request leaves of the secrets of its service: all, unless its first attempt is answered 403. -/
def Leaves (g : Gateway) (r : Request) (s t : State) : Prop :=
  (∀ p, (g.prepare r s).1 = .ok p → IsForbidden (g.tryOnce p (g.prepare r s).2).1 →
      (s.toSession.reset p.entry.strategy).SameSecrets t.toSession) ∧
    ((∀ p, (g.prepare r s).1 = .ok p → ¬ IsForbidden (g.tryOnce p (g.prepare r s).2).1) →
      s.toSession.SameSecrets t.toSession)

variable {g : Gateway} {r : Request} {s t u v : State} {p q : Ready} {made more : List Attempt}

theorem SentBy.of_sent (h : t.world.sent = s.world.sent) : SentBy [] s t :=
  ⟨[], by rw [h, List.append_nil], List.nil_sublist _⟩

theorem SentBy.trans (h : SentBy made s t) (h' : SentBy more t u) : SentBy (made ++ more) s u := by
  obtain ⟨sent, hsent, hsub⟩ := h
  obtain ⟨rest, hrest, hsub'⟩ := h'
  refine ⟨sent ++ rest, by rw [hrest, hsent, List.append_assoc], ?_⟩
  rw [List.map_append]
  exact hsub.append hsub'

theorem untouched_settle {service : String} {o : Outbound} {e : CacheEntry} {outcome : Except ProxyError Ready}
    {token : HeaderValue} (hown : o.accessToken = some token) (h : g.settle service o e s = (outcome, t)) :
    s.toSession.Untouched t.toSession := by
  -- With a token of its own a request is not authorized, and the stores are not even read.
  unfold settle State.onSession authorize at h
  rw [hown] at h
  cases h
  exact .refl _

theorem accessToken_of_owned {service : String} {o : Outbound} (hown : (r.headers.get? .accessToken).isSome)
    (hout : g.outboundOf r = .ok (service, o)) : ∃ token, o.accessToken = some token := by
  obtain ⟨token, htoken⟩ := Option.isSome_iff_exists.mp hown
  exact ⟨token.hidden, by rw [accessToken_of_outboundOf hout, htoken, Option.map_some]⟩

theorem untouched_prepare {outcome : Except ProxyError Ready} (hown : (r.headers.get? .accessToken).isSome)
    (h : g.prepare r s = (outcome, t)) : (g.awaitBody r s).toSession.Untouched t.toSession := by
  obtain rfl | ⟨service, o, hout, hentry⟩ := prepare_cases h
  · exact .refl _
  · have hfound := untouched_entryFor service (g.awaitBody r s)
    obtain rfl | ⟨entry, u, hok, hsettle⟩ := hentry
    · exact hfound
    · rw [hok] at hfound
      obtain ⟨token, htoken⟩ := accessToken_of_owned hown hout
      exact hfound.trans (untouched_settle htoken hsettle)

theorem quiet_prepare {outcome : Except ProxyError Ready} (hown : (r.headers.get? .accessToken).isSome)
    (h : g.prepare r s = (outcome, t)) : SentBy [] s t ∧ s.toSession.SameSecrets t.toSession := by
  obtain ⟨hworld, htokens, hcsrf⟩ := untouched_prepare hown h
  have hsent : t.world.sent = (g.awaitBody r s).world.sent := by rw [hworld]
  exact ⟨.of_sent hsent, htokens, hcsrf⟩

theorem untouched_renew {outcome : Except ProxyError Ready} {token : HeaderValue}
    (hown : p.outbound.accessToken = some token) (h : g.renew p s = (outcome, t)) :
    (s.toSession.reset p.entry.strategy).Untouched t.toSession := by
  have hfound := untouched_rebuildEntry p.service { s with toSession := s.toSession.reset p.entry.strategy }
  obtain rfl | ⟨entry, u, hok, hsettle⟩ := renew_cases h
  · exact hfound
  · rw [hok] at hfound
    exact hfound.trans (untouched_settle hown hsettle)

theorem sentBy_tryOnce {result : Except ProxyError Received} (h : g.tryOnce p s = (result, t)) :
    SentBy [p.attempt result] s t ∧ s.toSession.SameSecrets t.toSession := by
  have hmade := made_tryOnce h
  cases h
  exact ⟨hmade.sublist, rfl, rfl⟩

theorem sameSecrets_reset (strategy : Strategy) {x y : Session} (h : x.SameSecrets y) :
    (x.reset strategy).SameSecrets (y.reset strategy) := by
  obtain ⟨htokens, hcsrf⟩ := h
  unfold Session.reset
  constructor <;> (split <;> split <;> simp [htokens, hcsrf])

theorem leaves_of_passed {outcome : Except ProxyError Ready} (hprepare : g.prepare r s = (outcome, u))
    (hpassed : ∀ p, outcome = .ok p → ¬ IsForbidden (g.tryOnce p u).1) (h : s.toSession.SameSecrets t.toSession) :
    g.Leaves r s t := by
  rw [Leaves, hprepare]
  exact ⟨fun p hp hforbidden => absurd hforbidden (hpassed p hp), fun _ => h⟩

theorem leaves_of_forbidden {result : Except ProxyError Received} (hprepare : g.prepare r s = (.ok p, u))
    (hfirst : g.tryOnce p u = (result, v)) (hforbidden : IsForbidden result)
    (h : (s.toSession.reset p.entry.strategy).SameSecrets t.toSession) : g.Leaves r s t := by
  have hresult : IsForbidden (g.tryOnce p u).1 := by rwa [hfirst]
  rw [Leaves, hprepare]
  refine ⟨fun p' hp _ => ?_, fun hpassed => absurd hresult (hpassed p rfl)⟩
  cases hp
  exact h

theorem passes_renewal {result : Except ProxyError Received} {outcome : Except ProxyError Ready}
    (hown : (r.headers.get? .accessToken).isSome) (hprepare : g.prepare r s = (.ok p, t))
    (hfirst : g.tryOnce p t = (result, u)) (hrenew : g.renew p u = (outcome, v)) :
    SentBy [p.attempt result] s v ∧ (s.toSession.reset p.entry.strategy).SameSecrets v.toSession := by
  obtain ⟨hquiet, hkept⟩ := quiet_prepare hown hprepare
  obtain ⟨hsent, hsame⟩ := sentBy_tryOnce hfirst
  obtain ⟨token, htoken⟩ := accessToken_of_owned hown (prepare_spec hprepare).1
  have hrenewed := untouched_renew htoken hrenew
  have hworld : v.world = u.world := hrenewed.world.trans (Session.world_reset _ _)
  exact ⟨(hquiet.trans hsent).trans (.of_sent (congrArg World.sent hworld)),
    (sameSecrets_reset p.entry.strategy (hkept.trans hsame)).trans hrenewed.sameSecrets⟩

theorem Course.passes {last : Except ProxyError Received} (h : Course g r s made last t)
    (hown : (r.headers.get? .accessToken).isSome) : SentBy made s t ∧ g.Leaves r s t := by
  cases h with
  | refused prepared =>
    obtain ⟨hquiet, hkept⟩ := quiet_prepare hown prepared
    exact ⟨hquiet, leaves_of_passed prepared (fun _ hp => nomatch hp) hkept⟩
  | single prepared first passed =>
    obtain ⟨hquiet, hkept⟩ := quiet_prepare hown prepared
    obtain ⟨hsent, hsame⟩ := sentBy_tryOnce first
    refine ⟨hquiet.trans hsent, leaves_of_passed prepared (fun p hp => ?_) (hkept.trans hsame)⟩
    cases hp
    rwa [first]
  -- The reset comes before the second authorization, which is skipped as the first one was: nothing makes up for it.
  | stranded prepared first forbidden renewed =>
    obtain ⟨hsent, hsecrets⟩ := passes_renewal hown prepared first renewed
    exact ⟨hsent, leaves_of_forbidden prepared first forbidden ⟨hsecrets.tokens, hsecrets.csrf⟩⟩
  | renewed prepared first forbidden renewed second =>
    obtain ⟨hsent, hsecrets⟩ := passes_renewal hown prepared first renewed
    obtain ⟨hagain, hsame⟩ := sentBy_tryOnce second
    have hkept := hsecrets.trans hsame
    exact ⟨hsent.trans hagain, leaves_of_forbidden prepared first forbidden ⟨hkept.tokens, hkept.csrf⟩⟩

theorem sameSecrets_dispatch (g : Gateway) (r : Request) (s : State) :
    (g.dispatch r s).2.world.sent = (g.forward r s).2.world.sent ∧
      (g.forward r s).2.toSession.SameSecrets (g.dispatch r s).2.toSession := by
  rcases hforward : g.forward r s with ⟨e | received, t⟩
  · rw [dispatch_error hforward]
    exact ⟨rfl, rfl, rfl⟩
  · rw [dispatch_ok hforward]
    exact ⟨sent_finish received t, rfl, rfl⟩

/-- For a request with a token of its own nothing is sent but its attempts, whatever they are answered. It leaves all
secrets as they are, unless its first attempt is answered 403: then those of its service are dropped. -/
theorem own_token_passes_through (g : Gateway) (r : Request) (s : State)
    (hown : (r.headers.get? .accessToken).isSome) :
    let after := (g.dispatch r s).2
    ∃ made, after.attempts = s.attempts ++ made ∧ SentBy made s after ∧ g.Leaves r s after := by
  intro after
  obtain ⟨made, hcourse⟩ := forward_course g r s
  obtain ⟨hattempts, -⟩ := attempts_dispatch g r s
  obtain ⟨hworld, hsame⟩ := sameSecrets_dispatch g r s
  obtain ⟨⟨sent, hsent, hsub⟩, hforbidden, hpassed⟩ := hcourse.passes hown
  exact ⟨made, hattempts.trans hcourse.attempts, ⟨sent, hworld.trans hsent, hsub⟩,
    fun p hp h => (hforbidden p hp h).trans hsame, fun h => (hpassed h).trans hsame⟩

namespace Ferry

def config : Config :=
  { services :=
      [⟨"ferry",
        { targetUrl := "http://[::2]/", credentials := some { oauth := some ⟨"ferry", "a", "http://[::1]/token"⟩ } }⟩] }

def network : Network where
  connects _ := true
  reply _ s :=
    if s.host = "[::1]".toList then
      ⟨200, .empty, Bytes.ofText "\x7b\x22access_token\x22:\x22t\x22,\x22expires_in\x22:3600\x7d", 0, false, none⟩
    else if (s.headers.all .authorization).map HeaderValue.bytes = [Bytes.ofText "forged"] then
      ⟨403, .empty, [], 0, false, none⟩
    else ⟨200, .empty, [], 0, false, none⟩

def gateway : Gateway := .ofConfig network config

def order : Request := ⟨.get, .origin "/".toList, Headers.empty.add .host ⟨Bytes.ofText "ferry", false⟩, .whole []⟩

def owned (token : String) : Request :=
  { order with headers := order.headers.add .accessToken ⟨Bytes.ofText token, false⟩ }

def warm : State := (gateway.dispatch order (.start config (.directory (.ofServices config.services)))).2

def key : TokenKey := ⟨"ferry", "http://[::1]/token"⟩

end Ferry

section Ferry
open Ferry

/-- A refused caller makes two attempts, and nothing else is sent for it. -/
theorem own_token_passes_ferry :
    let after := (gateway.dispatch (owned "forged") warm).2
    after.attempts.length = warm.attempts.length + 2 ∧
      ∃ made, after.attempts = warm.attempts ++ made ∧ SentBy made warm after ∧
        gateway.Leaves (owned "forged") warm after :=
  ⟨by decide +kernel, own_token_passes_through gateway (owned "forged") warm (by decide)⟩

/-- A caller with a forged token has the token of the service dropped for all others: the next one asks the endpoint. -/
theorem own_token_flushes_ferry :
    let after := (gateway.dispatch (owned "forged") warm).2
    (warm.tokens.token? key).isSome = true ∧ after.tokens.token? key = none ∧
      (gateway.dispatch order after).2.world.sent.map Sent.host =
        ["[::1]", "[::2]", "[::2]", "[::2]", "[::1]", "[::2]"].map String.toList := by
  decide +kernel

end Ferry

end Gateway
end CredentialGateway
