import CredentialGateway.Proofs.Gateway.Kept
import CredentialGateway.Proofs.Http.Body

/-! The recovery from 403: at most two attempts, what each of them carries, and which result the caller gets. -/

namespace CredentialGateway

open Http

/-- An attempt carries a request to a target: its method, body, path and query, and its headers but for credentials. The
CSRF headers stem from this token, if there is one, and the cookies of the request. -/
structure Attempt.Carries (a : Attempt) (r : Request) (target : Url) (csrf : Option CsrfToken) : Prop where
  method : a.call.method = r.method
  body : a.call.body = r.body.bytes
  url : a.call.url = (Call.splitUserInfo (target.join r.uri.pathAndQuery)).1
  headers : AgreesButCredentials (Call.withAccept (Outbound.forwardedHeaders r.headers)) a.call.headers
  csrfHeaders : CsrfWritten (Outbound.forwardedHeaders r.headers) a.call.headers csrf

def Reply.delivered (reply : Reply) (method : Method) : Option Bytes :=
  if expectsBody method.token reply.status then if reply.cut = none then some reply.body else none else some []

/-- A caller gets what came of an attempt: its error, or the reply to it without its hop-by-hop headers. -/
def Attempt.Returned (a : Attempt) (n : Network) (sent : List Sent) : Except ProxyError Response → Prop
  | .error e => a.result = .error e
  | .ok response => ∃ before, sent = before ++ [a.call.sent] ∧
      let reply := n.reply before a.call.sent
      response = ⟨reply.status, reply.headers.stripHopByHop, reply.delivered a.call.method⟩

namespace Gateway

def Renews (g : Gateway) (r : Request) (s : State) (outcome : Except ProxyError Ready) (v : State) : Prop :=
  ∃ p t u result, g.prepare r s = (.ok p, t) ∧ g.tryOnce p t = (result, u) ∧ IsForbidden result ∧
    g.renew p u = (outcome, v)

/-- The attempt for which a request was made ready: it carries the request with a CSRF token that the store had then, and
the network made of it what came in the end. -/
structure AttemptOf (g : Gateway) (r : Request) (p : Ready) (ready : State) (a : Attempt) (done : World) : Prop where
  carries : ∃ csrf, a.Carries r p.entry.target csrf ∧
    ∀ token, csrf = some token → ∃ url, ready.csrf.get? url = some token
  made : a.Made g.network g.timeout ready.world done

section
variable {g : Gateway} {r : Request} {s t u : State} {p : Ready}

theorem outboundOf_spec {service : String} {o : Outbound} (h : g.outboundOf r = .ok (service, o)) :
    o.method = r.method ∧ o.body = r.body.bytes ∧ o.pathAndQuery = r.uri.pathAndQuery ∧
      o.headers = Outbound.forwardedHeaders r.headers := by
  unfold outboundOf Outbound.ofRequest at h
  split at h
  · cases h
  · split at h
    · cases h
    · rename_i body hread
      obtain ⟨-, -, rfl⟩ := Body.read_eq_ok_iff.mp hread
      cases h
      exact ⟨rfl, rfl, rfl, rfl⟩

theorem authorize_spec {e : CacheEntry} {o : Outbound} {h : Headers} {x x' : Session}
    (hok : g.authorize e o x = (.ok h, x')) :
    AgreesButCredentials o.headers h ∧
      ∃ csrf, CsrfWritten o.headers h csrf ∧ ∀ token, csrf = some token → ∃ url, x'.csrf.get? url = some token := by
  unfold authorize at hok
  split at hok
  · rename_i token _
    cases hok
    have hset (n : HeaderName) (hn : n ≠ .authorization) := Headers.all_set_of_ne o.headers token hn
    exact ⟨fun n hn _ _ => hset n hn, none, ⟨hset _ (by decide), hset _ (by decide)⟩, fun _ hsome => nomatch hsome⟩
  · split at hok
    · cases hok
    · rename_i hsetup
      cases hok
      obtain ⟨hagree, hwritten⟩ := Session.setup_spec hsetup
      refine ⟨hagree, _, hwritten, fun token htoken => ?_⟩
      obtain ⟨url, -, hget⟩ := Option.bind_eq_some_iff.mp htoken
      exact ⟨url, hget⟩

theorem all_callOf (e : CacheEntry) (o : Outbound) (h : Headers) {n : HeaderName} (hn : n ≠ .authorization) :
    (callOf e o h).headers.all n = (Call.withAccept h).all n := by
  have hoverride (m : HeaderName) (hm : m ≠ .authorization) (credentials : Option HeaderValue) :
      ((Call.urlHeaders credentials).override h).all m = h.all m := by
    rw [Headers.all_override, Call.all_urlHeaders_of_ne credentials hm]
    split
    · rename_i hnil
      exact hnil.symm
    · rfl
  simp only [callOf, Call.all_withAccept, hoverride n hn]

theorem all_callOf_of_ne (e : CacheEntry) (o : Outbound) (h : Headers) {n : HeaderName} (hn : n ≠ .authorization)
    (hne : n ≠ .accept) : (callOf e o h).headers.all n = h.all n := by
  rw [all_callOf e o h hn, Call.all_withAccept, if_neg fun hn => hne hn.1]

theorem withAccept_congr {h h' : Headers} (hagree : AgreesButCredentials h h') :
    AgreesButCredentials (Call.withAccept h) (Call.withAccept h') := by
  intro n ha hc hk
  rw [Call.all_withAccept, Call.all_withAccept, hagree n ha hc hk]

theorem carries_of_settle {service : String} {o : Outbound} {e : CacheEntry} (hout : g.outboundOf r = .ok (service, o))
    (h : g.settle service o e s = (.ok p, t)) (result : Except ProxyError Received) :
    ∃ csrf, (p.attempt result).Carries r p.entry.target csrf ∧
      ∀ token, csrf = some token → ∃ url, t.csrf.get? url = some token := by
  obtain ⟨⟨-, rfl, rfl⟩, hauthorize, -⟩ := settle_spec h
  obtain ⟨hmethod, hbody, hpath, hheaders⟩ := outboundOf_spec hout
  obtain ⟨hagree, csrf, hwritten, hstored⟩ := authorize_spec hauthorize
  rw [hheaders] at hagree hwritten
  have hcall {n : HeaderName} (hn : n ≠ .authorization) := all_callOf p.entry p.outbound p.headers hn
  have hplain {n : HeaderName} := all_callOf_of_ne p.entry p.outbound p.headers (n := n)
  refine ⟨csrf, ⟨hmethod, hbody, ?_, fun n ha hc hk => ?_, ?_⟩, hstored⟩
  · rw [← hpath]
    rfl
  · exact (hcall ha).trans (withAccept_congr hagree n ha hc hk)
  · exact hwritten.congr_right (hplain (by decide) (by decide)) (hplain (by decide) (by decide))

theorem made_tryOnce {result : Except ProxyError Received} (h : g.tryOnce p t = (result, u)) :
    (p.attempt result).Made g.network g.timeout t.world u.world := by
  cases h
  exact made_sendAttempt g p.entry p.outbound p.headers t.toSession

theorem attemptOf_settle {service : String} {o : Outbound} {e : CacheEntry} {result : Except ProxyError Received}
    (hout : g.outboundOf r = .ok (service, o)) (h : g.settle service o e s = (.ok p, t))
    (htry : g.tryOnce p t = (result, u)) : g.AttemptOf r p t (p.attempt result) u.world :=
  ⟨carries_of_settle hout h result, made_tryOnce htry⟩

theorem finish_eq {received : Received} {method : Method} {reply : Reply} (h : received.OfReply method reply)
    (s : State) : (finish received s).1 = ⟨reply.status, reply.headers.stripHopByHop, reply.delivered method⟩ := by
  obtain ⟨hstatus, hheaders, hbody, hcut⟩ := h
  unfold finish Received.readBody Reply.delivered
  rw [hstatus, hheaders, hbody, hcut]
  by_cases hexpects : expectsBody method.token reply.status
  · rw [if_pos hexpects, if_pos hexpects, if_pos hexpects]
    rcases reply.cut with - | - | - <;> rfl
  · rw [if_neg hexpects, if_neg hexpects, if_neg hexpects]

theorem sent_finish (received : Received) (s : State) : (finish received s).2.world.sent = s.world.sent :=
  Received.sent_readBody received s.world

theorem dispatch_error {e : ProxyError} (h : g.forward r s = (.error e, t)) : g.dispatch r s = (.error e, t) := by
  unfold forward at h
  unfold dispatch dispatchBy
  rw [h]

theorem dispatch_ok {received : Received} (h : g.forward r s = (.ok received, t)) :
    g.dispatch r s = (.ok (finish received t).1, (finish received t).2) := by
  unfold forward at h
  unfold dispatch dispatchBy
  rw [h]

theorem attempts_dispatch (g : Gateway) (r : Request) (s : State) :
    (g.dispatch r s).2.attempts = (g.forward r s).2.attempts ∧ (g.dispatch r s).2.csrf = (g.forward r s).2.csrf := by
  rcases hforward : g.forward r s with ⟨e | received, t⟩
  · rw [dispatch_error hforward]
    exact ⟨rfl, rfl⟩
  · rw [dispatch_ok hforward]
    exact ⟨rfl, rfl⟩

theorem returned_of_tryOnce {result : Except ProxyError Received} {after : State} (h : g.tryOnce p t = (result, u))
    (hforward : g.forward r s = (result, after)) (hworld : after.world = u.world) :
    (p.attempt result).Returned g.network (g.dispatch r s).2.world.sent (g.dispatch r s).1 := by
  rcases result with e | received
  · rw [dispatch_error hforward]
    rfl
  · rw [dispatch_ok hforward]
    obtain ⟨hsent, hreply⟩ := (made_tryOnce h).answer rfl
    refine ⟨t.world.sent, ?_, finish_eq hreply after⟩
    rw [sent_finish, hworld, hsent]

theorem Renews.eq {outcome x : Except ProxyError Ready} {result : Except ProxyError Received} {v w : State}
    (h : g.Renews r s outcome v) (prepared : g.prepare r s = (.ok p, t)) (first : g.tryOnce p t = (result, u))
    (renewed : g.renew p u = (x, w)) : outcome = x ∧ v = w := by
  obtain ⟨p', t', u', result', prepared', first', -, renewed'⟩ := h
  obtain ⟨rfl, rfl⟩ : p = p' ∧ t = t' := by simpa using prepared.symm.trans prepared'
  obtain ⟨rfl, rfl⟩ := Prod.mk.inj (first.symm.trans first')
  exact Prod.mk.inj (renewed'.symm.trans renewed)

theorem not_renews_of_passed {result : Except ProxyError Received} {outcome : Except ProxyError Ready} {v : State}
    (prepared : g.prepare r s = (.ok p, t)) (first : g.tryOnce p t = (result, u)) (passed : ¬ IsForbidden result) :
    ¬ g.Renews r s outcome v := by
  rintro ⟨p', t', u', result', prepared', first', hforbidden, -⟩
  obtain ⟨rfl, rfl⟩ : p = p' ∧ t = t' := by simpa using prepared.symm.trans prepared'
  obtain ⟨rfl, rfl⟩ := Prod.mk.inj (first.symm.trans first')
  exact passed hforbidden

theorem not_renews_of_refused {e : ProxyError} {outcome : Except ProxyError Ready} {v : State}
    (prepared : g.prepare r s = (.error e, t)) : ¬ g.Renews r s outcome v := by
  rintro ⟨p', t', u', result', prepared', -⟩
  cases prepared.symm.trans prepared'

theorem precedes_prepare {outcome : Except ProxyError Ready} (h : g.prepare r s = (outcome, t)) :
    s.world.Precedes t.world :=
  (Session.kept_precedes g.toReach s.world).prepare (.refl s.world) h

theorem precedes_renew {outcome : Except ProxyError Ready} (h : g.renew p s = (outcome, t)) :
    s.world.Precedes t.world :=
  (Session.kept_precedes g.toReach s.world).renew (.refl s.world) trivial h

theorem precedes_dispatch_of_forward : (g.forward r s).2.world.Precedes (g.dispatch r s).2.world := by
  rcases hforward : g.forward r s with ⟨e | received, t⟩
  · rw [dispatch_error hforward]
    exact .refl t.world
  · rw [dispatch_ok hforward]
    exact received.precedes_readBody t.world

namespace Course
variable {made : List Attempt} {last : Except ProxyError Received} {after : State}

theorem length_le (h : Course g r s made last after) : made.length ≤ 2 := by
  cases h <;> simp

theorem eq_nil_iff (h : Course g r s made last after) : made = [] ↔ ∃ e, (g.prepare r s).1 = .error e := by
  cases h with
  | refused prepared => simp [prepared]
  | single prepared _ _ | stranded prepared _ _ _ | renewed prepared _ _ _ _ => simp [prepared]

theorem length_eq_two_iff (h : Course g r s made last after) : made.length = 2 ↔ ∃ q v, g.Renews r s (.ok q) v := by
  cases h with
  | refused prepared =>
    refine ⟨fun hlength => (nomatch hlength), fun ⟨q, v, hq⟩ => ?_⟩
    exact absurd hq (not_renews_of_refused prepared)
  | single prepared first passed =>
    refine ⟨fun hlength => (nomatch hlength), fun ⟨q, v, hq⟩ => ?_⟩
    exact absurd hq (not_renews_of_passed prepared first passed)
  | stranded prepared first forbidden renewed =>
    refine ⟨fun hlength => (nomatch hlength), fun ⟨q, v, hq⟩ => ?_⟩
    cases (hq.eq prepared first renewed).1
  | @renewed p q t u v w result _ prepared first forbidden renewed second =>
    exact ⟨fun _ => ⟨q, v, p, t, u, result, prepared, first, forbidden, renewed⟩, fun _ => rfl⟩

theorem error (h : Course g r s made last after) {e : ProxyError}
    (he : (g.prepare r s).1 = .error e ∨ ∃ v, g.Renews r s (.error e) v) : last = .error e := by
  cases h with
  | refused prepared =>
    rcases he with he | ⟨v, he⟩
    · rw [prepared] at he
      cases he
      rfl
    · exact absurd he (not_renews_of_refused prepared)
  | single prepared first passed =>
    rcases he with he | ⟨v, he⟩
    · rw [prepared] at he
      cases he
    · exact absurd he (not_renews_of_passed prepared first passed)
  | stranded prepared first forbidden renewed =>
    rcases he with he | ⟨v, he⟩
    · rw [prepared] at he
      cases he
    · exact congrArg _ (Except.error.inj (he.eq prepared first renewed).1).symm
  | renewed prepared first forbidden renewed second =>
    rcases he with he | ⟨v, he⟩
    · rw [prepared] at he
      cases he
    · cases (he.eq prepared first renewed).1

theorem returned (h : Course g r s made (g.forward r s).1 (g.forward r s).2) {a : Attempt} (ha : made.getLast? = some a)
    (hrenews : ∀ e v, ¬ g.Renews r s (.error e) v) :
    a.Returned g.network (g.dispatch r s).2.world.sent (g.dispatch r s).1 := by
  generalize hlast : (g.forward r s).1 = last at h
  generalize hafter : (g.forward r s).2 = after at h
  have hforward : g.forward r s = (last, after) := Prod.ext hlast hafter
  cases h with
  | refused prepared => cases ha
  | single prepared first passed =>
    cases ha
    exact returned_of_tryOnce first hforward rfl
  | @stranded p t u v result e prepared first forbidden renewed =>
    exact absurd ⟨p, t, u, result, prepared, first, forbidden, renewed⟩ (hrenews e v)
  | renewed prepared first forbidden renewed second =>
    cases ha
    exact returned_of_tryOnce second hforward rfl

theorem first_made {result : Except ProxyError Received} (h : Course g r s made last after)
    (prepared : g.prepare r s = (.ok p, t)) (first : g.tryOnce p t = (result, u)) :
    made.head? = some (p.attempt result) ∧ g.AttemptOf r p t (p.attempt result) u.world ∧
      s.world.Precedes t.world ∧ u.world.Precedes after.world := by
  obtain ⟨hout, x, -, hsettle⟩ := prepare_spec prepared
  have hattempt := attemptOf_settle hout hsettle first
  have hgoes : made.head? = some (p.attempt result) ∧ u.world.Precedes after.world := by
    -- Every course has the same preparation and the same first attempt.
    cases h with
    | refused prepared' => cases prepared.symm.trans prepared'
    | single prepared' first' _ =>
      cases prepared.symm.trans prepared'
      cases first.symm.trans first'
      exact ⟨rfl, .refl _⟩
    | stranded prepared' first' _ renewed =>
      cases prepared.symm.trans prepared'
      cases first.symm.trans first'
      have hrenew := precedes_renew renewed
      exact ⟨rfl, hrenew⟩
    | renewed prepared' first' _ renewed second =>
      cases prepared.symm.trans prepared'
      cases first.symm.trans first'
      have hagain := (made_tryOnce second).precedes
      exact ⟨rfl, (precedes_renew renewed).trans hagain⟩
  exact ⟨hgoes.1, hattempt, precedes_prepare prepared, hgoes.2⟩

theorem second_made {result : Except ProxyError Received} (h : Course g r s made last after) {q : Ready} {v : State}
    (prepared : g.prepare r s = (.ok p, t)) (first : g.tryOnce p t = (result, u)) (hq : g.Renews r s (.ok q) v) :
    ∃ second w, made[1]? = some second ∧ g.AttemptOf r q v second w ∧ u.world.Precedes v.world ∧
      w.Precedes after.world := by
  cases h with
  | refused prepared' => exact absurd hq (not_renews_of_refused prepared')
  | single prepared' first' passed => exact absurd hq (not_renews_of_passed prepared' first' passed)
  | stranded prepared' first' _ renewed => cases (hq.eq prepared' first' renewed).1
  | renewed prepared' first' _ renewed second =>
    obtain ⟨hq', rfl⟩ := hq.eq prepared' first' renewed
    cases hq'
    cases prepared.symm.trans prepared'
    cases first.symm.trans first'
    obtain ⟨hout, -⟩ := prepare_spec prepared
    obtain ⟨-, x, -, hsettle⟩ := renew_spec renewed
    exact ⟨_, _, rfl, attemptOf_settle hout hsettle second, precedes_renew renewed, .refl _⟩

end Course

/-- A request makes at most two attempts: none if it fails before the first, and a second one exactly if the first is
answered 403 and the renewal succeeds. Each of them goes through the network, carries the request, and has the cookies of
the caller and of its own token; what comes of it, a 403 too, is what the network made of it. The caller gets the result
of the last attempt, or the error that kept the next one from being made. -/
theorem one_shot_recovery (g : Gateway) (r : Request) (s : State) :
    let result := (g.dispatch r s).1
    let after := (g.dispatch r s).2
    let prepared := g.prepare r s
    ∃ made, after.attempts = s.attempts ++ made ∧ made.length ≤ 2 ∧
      (made = [] ↔ ∃ e, prepared.1 = .error e) ∧
      (∀ p, prepared.1 = .ok p → ¬ IsForbidden (g.tryOnce p prepared.2).1 → made.length = 1) ∧
      (made.length = 2 ↔ ∃ q v, g.Renews r s (.ok q) v) ∧
      (∀ e, (prepared.1 = .error e ∨ ∃ v, g.Renews r s (.error e) v) → result = .error e) ∧
      (∀ a, made.getLast? = some a → (∀ e v, ¬ g.Renews r s (.error e) v) →
        a.Returned g.network after.world.sent result) ∧
      ∀ p, prepared.1 = .ok p →
        let answered := (g.tryOnce p prepared.2).2.world
        (∃ first, made.head? = some first ∧ first.result = (g.tryOnce p prepared.2).1 ∧
          g.AttemptOf r p prepared.2 first answered ∧
          s.world.Precedes prepared.2.world ∧ answered.Precedes after.world) ∧
        ∀ q v, g.Renews r s (.ok q) v → ∃ second done, made[1]? = some second ∧ g.AttemptOf r q v second done ∧
          answered.Precedes v.world ∧ done.Precedes after.world := by
  intro result after prepared
  obtain ⟨made, hcourse⟩ := forward_course g r s
  obtain ⟨hattempts, -⟩ := attempts_dispatch g r s
  have hends := precedes_dispatch_of_forward (g := g) (r := r) (s := s)
  refine ⟨made, hattempts.trans hcourse.attempts, hcourse.length_le, hcourse.eq_nil_iff, fun p hp hpassed => ?_,
    hcourse.length_eq_two_iff, fun e he => ?_, fun a ha hrenews => hcourse.returned ha hrenews, fun p hp => ⟨?_, ?_⟩⟩
  · have hprepare : g.prepare r s = (.ok p, prepared.2) := Prod.ext hp rfl
    have hne : made ≠ [] := fun hnil => by
      obtain ⟨e, he⟩ := hcourse.eq_nil_iff.mp hnil
      cases he.symm.trans hp
    have htwo : made.length ≠ 2 := fun hlength => by
      obtain ⟨q, v, hq⟩ := hcourse.length_eq_two_iff.mp hlength
      exact not_renews_of_passed hprepare rfl hpassed hq
    have hpos := List.length_pos_iff.mpr hne
    have hle := hcourse.length_le
    omega
  · have hforward : g.forward r s = (.error e, (g.forward r s).2) := Prod.ext (hcourse.error he) rfl
    exact congrArg Prod.fst (dispatch_error hforward)
  · obtain ⟨hhead, hattempt, hbegins, hgoes⟩ := hcourse.first_made (Prod.ext hp rfl) rfl
    exact ⟨_, hhead, rfl, hattempt, hbegins, hgoes.trans hends⟩
  · intro q v hq
    obtain ⟨second, done, hsecond, hattempt, hrenewal, hgoes⟩ := hcourse.second_made (Prod.ext hp rfl) rfl hq
    exact ⟨second, done, hsecond, hattempt, hrenewal, hgoes.trans hends⟩

namespace Toll

def config : Config :=
  { services :=
      [⟨"toll",
        { targetUrl := "http://[::2]/", credentials := some { oauth := some ⟨"toll", "a", "http://[::1]/token"⟩ } }⟩] }

def network : Network where
  connects _ := true
  reply before s :=
    if s.host = "[::1]".toList then
      ⟨200, .empty, Bytes.ofText "\x7b\x22access_token\x22:\x22t" ++
        Bytes.ofChars (List.replicate before.length 'x') ++ Bytes.ofText "\x22\x7d", 0, false, none⟩
    else if s.headers.get? .authorization = some ⟨Bytes.ofText "Bearer t", true⟩ then
      ⟨403, .empty, Bytes.ofText "refused", 0, false, none⟩
    else ⟨200, .empty, Bytes.ofText "paid", 0, false, none⟩

def gateway : Gateway := .ofConfig network config

def order : Request :=
  ⟨.post, .origin "/".toList, Headers.empty.add .host ⟨Bytes.ofText "toll", false⟩,
    .piece 40 (Bytes.ofText "coin") (.ended 2)⟩

def start : State := .start config (.directory (.ofServices config.services))

end Toll

section Toll
open Toll

/-- The network refuses the first attempt and takes the second one, and both of them have the same body. -/
theorem one_shot_recovery_at_toll :
    let answered := gateway.dispatch order start
    (answered.1 = .ok ⟨200, .empty, some (Bytes.ofText "paid")⟩ ∧
        answered.2.world.sent.map Sent.host = ["[::1]", "[::2]", "[::1]", "[::2]"].map String.toList) ∧
      ∃ first second before refused renewed done, answered.2.attempts = [first, second] ∧
        (first.Made network gateway.timeout before refused ∧ IsForbidden first.result ∧
          first.call.body = Bytes.ofText "coin") ∧
        refused.Precedes renewed ∧
        second.Made network gateway.timeout renewed done ∧ second.call.body = Bytes.ofText "coin" := by
  intro answered
  refine ⟨by decide +kernel, ?_⟩
  obtain ⟨made, hattempts, -, -, -, htwo, -, -, hmade⟩ := one_shot_recovery gateway order start
  change answered.2.attempts = made at hattempts
  have hlength : answered.2.attempts.length = 2 := by decide +kernel
  obtain ⟨q, v, hrenews⟩ := htwo.mp (hattempts ▸ hlength)
  obtain ⟨p, t, u, result, hprepare, hfirst, hforbidden, -⟩ := id hrenews
  obtain ⟨⟨first, hhead, hresult, ⟨⟨_, hcarries, -⟩, hnetwork⟩, -, -⟩, hsecond⟩ := hmade p (by rw [hprepare])
  obtain ⟨second, done, hnext, ⟨⟨_, hcarries', -⟩, hnetwork'⟩, hrenewal, -⟩ := hsecond q v hrenews
  rw [hprepare, hfirst] at hresult
  obtain ⟨a, b, rfl⟩ := List.length_eq_two.mp (hattempts ▸ hlength)
  obtain rfl : a = first := Option.some.inj hhead
  obtain rfl : b = second := Option.some.inj hnext
  exact ⟨a, b, _, _, v.world, done, hattempts, ⟨hnetwork, hresult ▸ hforbidden, hcarries.body⟩, hrenewal, hnetwork',
    hcarries'.body⟩

end Toll

end
end Gateway
end CredentialGateway
