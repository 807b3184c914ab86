import CredentialGateway.Proofs.Cache.Basic
import CredentialGateway.Proofs.Gateway.Frame

/-! Services do not touch each other. All of them share a cache and the stores of secrets, but a request for one changes
there only what is its own, and is heard of only where its own entries point. -/

namespace CredentialGateway

open Http

namespace Gateway

/-- An entry that there is for a service from some state until so many lookups have been answered: the live one in the
cache, or one that is built from an answer in that time. -/
inductive Offers (s : State) (lookups : Nat) (id : String) (e : CacheEntry) : Prop
  | cached (found : (s.cache.get s.now id).1 = some e)
  | built {turn : Nat} (later : s.lookups ≤ turn) (earlier : turn < lookups) (answer : Builds s.metadata turn id e)

/-- What is done for one service and with these entries only. -/
structure Confined (n : Network) (id : String) (used : CacheEntry → Prop) (s t : State) : Prop
    extends Session.Confined n used s.toSession t.toSession where
  cache : ∀ other, other ≠ id → t.cache.find? other = s.cache.find? other

section
variable {g : Gateway} {n : Network} {used : CacheEntry → Prop} {id : String} {r : Request} {s t u : State} {p : Ready}
  {e : CacheEntry} {outcome : Except ProxyError Ready}

theorem Confined.trans (h : Confined n id used s t) (h' : Confined n id used t u) : Confined n id used s u :=
  ⟨h.toConfined.trans h'.toConfined, fun other hother => (h'.cache other hother).trans (h.cache other hother)⟩

theorem Confined.record (h : Confined n id used s t) (m : Metric) : Confined n id used s (t.record m) :=
  ⟨⟨h.tokens, h.csrf, h.sent⟩, h.cache⟩

theorem find?_rebuildEntry_of_ne {other : String} (h : other ≠ id) (s : State) :
    (State.rebuildEntry id s).2.cache.find? other = s.cache.find? other := by
  unfold State.rebuildEntry
  dsimp only
  split
  · rfl
  · unfold State.storeEntry Cache.put
    split
    · rfl
    · rename_i heq
      split at heq
      · cases heq
        exact Cache.find?_insert_of_ne h _ _ _
      · cases heq

theorem find?_cachedEntry_of_ne {other : String} (h : other ≠ id) (s : State) :
    (s.cachedEntry id).2.cache.find? other = s.cache.find? other := by
  unfold State.cachedEntry
  dsimp only
  split
  · exact Cache.find?_get_of_ne h
  · rfl

theorem confined_rebuildEntry (n : Network) (used : CacheEntry → Prop) (id : String) (s : State) :
    Confined n id used s (State.rebuildEntry id s).2 :=
  ⟨(untouched_rebuildEntry id s).confined, fun _ hother => find?_rebuildEntry_of_ne hother s⟩

theorem confined_entryFor (n : Network) (used : CacheEntry → Prop) (id : String) (s : State) :
    Confined n id used s (State.entryFor id s).2 := by
  have hcached : Confined n id used s (s.cachedEntry id).2 :=
    ⟨(untouched_cachedEntry id s).confined, fun _ hother => find?_cachedEntry_of_ne hother s⟩
  unfold State.entryFor
  split
  · rename_i heq
    rwa [heq] at hcached
  · rename_i v heq
    rw [heq] at hcached
    exact hcached.trans (confined_rebuildEntry n used id v)

theorem confined_settle {service : String} {o : Outbound} (he : used e) (h : g.settle service o e s = (outcome, t)) :
    Confined g.network id used s t := by
  rw [state_settle h]
  refine ⟨?_, fun _ _ => rfl⟩
  obtain hsame | hsetup := session_authorize g e o s.toSession
  · rw [hsame]
    exact .refl _ _ _
  · rw [hsetup]
    exact Session.confined_setup he o.headers

theorem server_join (target : Url) (cs : List Char) : (target.join cs).server = target.server := by
  have hpath (u : Url) (cs : List Char) : (u.setPath cs).authority = u.authority := by
    unfold Url.setPath
    dsimp only
    split <;> rfl
  have hquery (u : Url) (query : Option (List Char)) : (u.setQuery query).authority = u.authority := by
    unfold Url.setQuery
    split
    · rfl
    · split <;> rfl
  simp only [Url.server, Url.join, hpath, hquery]

theorem confined_tryOnce {result : Except ProxyError Received} (hp : used p.entry) (h : g.tryOnce p s = (result, t)) :
    Confined g.network id used s t := by
  have hmade := made_tryOnce h
  cases h
  refine ⟨⟨fun _ _ => rfl, fun _ _ => rfl, ?_⟩, fun _ _ => rfl⟩
  let call := callOf p.entry p.outbound p.headers
  have hhost : call.sent.host = p.entry.target.server := by
    change (Call.splitUserInfo (p.entry.target.join p.outbound.pathAndQuery)).1.server = p.entry.target.server
    rw [Call.splitUserInfo_server, server_join]
  obtain hnone | hone := hmade.sent
  · exact .of_sent_eq hnone
  · refine ⟨[call.sent], hone, fun x hx => ?_⟩
    rw [List.mem_singleton.mp hx]
    exact ⟨p.entry, hp, .inl hhost⟩

theorem serviceOf_of_outboundOf {service : String} {o : Outbound} (h : g.outboundOf r = .ok (service, o)) :
    g.serviceOf r = .ok service := by
  unfold outboundOf at h
  split at h
  · cases h
  · rename_i id hid
    rcases hbody : Outbound.ofRequest g.maxBody r with err | o'
    · rw [hbody] at h
      cases h
    · rw [hbody] at h
      cases h
      exact hid

theorem cachedEntry_lookups (id : String) (s : State) : (s.cachedEntry id).2.lookups = s.lookups := by
  unfold State.cachedEntry
  dsimp only
  split <;> rfl

theorem entryFor_offers {result : Except ProxyError CacheEntry} (h : State.entryFor id s = (result, t)) :
    s.lookups ≤ t.lookups ∧ ∀ e, result = .ok e → Offers s t.lookups id e := by
  have hlookups := cachedEntry_lookups id s
  have hmetadata := metadata_cachedEntry s id
  unfold State.entryFor at h
  split at h
  · rename_i e u heq
    rw [heq] at hlookups
    cases h
    refine ⟨hlookups.ge, fun e' he' => ?_⟩
    cases he'
    exact .cached (congrArg Prod.fst heq)
  · rename_i u heq
    rw [heq] at hlookups hmetadata
    obtain ⟨hnext, hbuilds⟩ := rebuildEntry_spec h
    rw [hlookups] at hnext hbuilds
    rw [hmetadata] at hbuilds
    exact ⟨by omega, fun e he => .built (Nat.le_refl _) (by omega) (hbuilds e he)⟩

theorem lookups_settle {service : String} {o : Outbound} (h : g.settle service o e s = (outcome, t)) :
    t.lookups = s.lookups := by
  rw [state_settle h]

theorem lookups_prepare (h : g.prepare r s = (outcome, t)) : s.lookups ≤ t.lookups := by
  obtain rfl | ⟨service, o, -, hentry⟩ := prepare_cases h
  · exact Nat.le_refl _
  · have hfound : s.lookups ≤ (State.entryFor service (g.awaitBody r s)).2.lookups :=
      (entryFor_offers (s := g.awaitBody r s) rfl).1
    obtain rfl | ⟨entry, u, hok, hsettle⟩ := hentry
    · exact hfound
    · rw [hok] at hfound
      exact hfound.trans (lookups_settle hsettle).ge

theorem lookups_renew (h : g.renew p s = (outcome, t)) : t.lookups = s.lookups + 1 := by
  obtain rfl | ⟨entry, u, hok, hsettle⟩ := renew_cases h
  · exact (rebuildEntry_spec rfl).1
  · exact (lookups_settle hsettle).trans (rebuildEntry_spec hok).1

theorem lookups_tryOnce {result : Except ProxyError Received} (h : g.tryOnce p s = (result, t)) :
    t.lookups = s.lookups := by
  cases h
  rfl

theorem Offers.mono {m n : Nat} (h : Offers s m id e) (hle : m ≤ n) : Offers s n id e := by
  cases h with
  | cached found => exact .cached found
  | built later earlier answer => exact .built later (Nat.lt_of_lt_of_le earlier hle) answer

theorem confined_prepare (hid : g.serviceOf r = .ok id) (h : g.prepare r s = (outcome, t))
    (hused : ∀ e, Offers (g.awaitBody r s) t.lookups id e → used e) : Confined g.network id used s t := by
  have harrived : Confined g.network id used s (g.awaitBody r s) :=
    ⟨⟨fun _ _ => rfl, fun _ _ => rfl, .of_sent_eq rfl⟩, fun _ _ => rfl⟩
  obtain rfl | ⟨service, o, hout, hentry⟩ := prepare_cases h
  · exact harrived
  · obtain rfl : id = service := Except.ok.inj (hid.symm.trans (serviceOf_of_outboundOf hout))
    have hconfined := harrived.trans (confined_entryFor g.network used id (g.awaitBody r s))
    obtain rfl | ⟨entry, u, hok, hsettle⟩ := hentry
    · exact hconfined
    · have hoffers : Offers (g.awaitBody r s) t.lookups id entry :=
        ((entryFor_offers hok).2 entry rfl).mono (lookups_settle hsettle).ge
      rw [hok] at hconfined
      exact hconfined.trans (confined_settle (hused entry hoffers) hsettle)

theorem offers_of_prepare (hid : g.serviceOf r = .ok id) (h : g.prepare r s = (.ok p, t)) :
    p.service = id ∧ Offers (g.awaitBody r s) t.lookups id p.entry := by
  obtain ⟨hout, u, hentry, hsettle⟩ := prepare_spec h
  have hservice : p.service = id := Except.ok.inj ((serviceOf_of_outboundOf hout).symm.trans hid)
  rw [hservice] at hentry
  exact ⟨hservice, ((entryFor_offers hentry).2 p.entry rfl).mono (lookups_settle hsettle).ge⟩

theorem confined_renew (hp : used p.entry) (hbuilt : ∀ e, Builds s.metadata s.lookups p.service e → used e)
    (h : g.renew p s = (outcome, t)) : Confined g.network p.service used s t := by
  let dropped : State := { s with toSession := s.toSession.reset p.entry.strategy }
  have hreset : Confined g.network p.service used s dropped :=
    ⟨Session.confined_reset g.network hp s.toSession, fun _ _ => rfl⟩
  have hconfined := hreset.trans (confined_rebuildEntry g.network used p.service dropped)
  obtain rfl | ⟨entry, u, hok, hsettle⟩ := renew_cases h
  · exact hconfined
  · have hbuilds : Builds s.metadata s.lookups p.service entry := (rebuildEntry_spec hok).2 entry rfl
    rw [hok] at hconfined
    exact hconfined.trans (confined_settle (hbuilt entry hbuilds) hsettle)

theorem offers_of_renew {v : State} {result : Except ProxyError Received} (hprepare : g.prepare r s = (.ok p, t))
    (hfirst : g.tryOnce p t = (result, u)) (hrenew : g.renew p u = (outcome, v)) :
    (∀ e, Builds u.metadata u.lookups p.service e → Offers (g.awaitBody r s) v.lookups p.service e) ∧
      t.lookups ≤ v.lookups := by
  have hmetadata : u.metadata = s.metadata := (metadata_tryOnce hfirst).trans (metadata_prepare hprepare)
  have hlater : s.lookups ≤ u.lookups := (lookups_prepare hprepare).trans (lookups_tryOnce hfirst).ge
  have hnext : v.lookups = u.lookups + 1 := lookups_renew hrenew
  have hsame : u.lookups = t.lookups := lookups_tryOnce hfirst
  rw [hmetadata]
  exact ⟨fun e he => .built hlater (by omega) he, by omega⟩

theorem offers_of_renew_ok {q : Ready} (h : g.renew p s = (.ok q, t)) : Builds s.metadata s.lookups p.service q.entry := by
  obtain ⟨-, u, hrebuild, -⟩ := renew_spec h
  exact (rebuildEntry_spec hrebuild).2 q.entry rfl

theorem Course.confined {made : List Attempt} {last : Except ProxyError Received} {after : State}
    (hid : g.serviceOf r = .ok id) (h : Course g r s made last after) :
    Confined g.network id (Offers (g.awaitBody r s) after.lookups id) s after := by
  cases h with
  | refused prepared => exact confined_prepare hid prepared fun _ he => he
  | single prepared first _ =>
    have hle := (lookups_tryOnce first).ge
    obtain ⟨-, hp⟩ := offers_of_prepare hid prepared
    exact (confined_prepare hid prepared fun _ he => he.mono hle).trans (confined_tryOnce (hp.mono hle) first)
  | @stranded p t u v result e prepared first _ renewed =>
    obtain ⟨rfl, hp⟩ := offers_of_prepare hid prepared
    obtain ⟨hbuilt, hle⟩ := offers_of_renew prepared first renewed
    have hprepare := confined_prepare hid prepared fun _ he => he.mono hle
    have hfirst : Confined g.network p.service (Offers (g.awaitBody r s) v.lookups p.service) t u :=
      confined_tryOnce (hp.mono hle) first
    have hrenew := confined_renew (hp.mono hle) hbuilt renewed
    exact ((hprepare.trans hfirst).trans hrenew).record _
  | @renewed p q t u v w result _ prepared first _ renewed second =>
    obtain ⟨rfl, hp⟩ := offers_of_prepare hid prepared
    obtain ⟨hbuilt, hle⟩ := offers_of_renew prepared first renewed
    have hprepare := confined_prepare hid prepared fun _ he => he.mono hle
    have hfirst : Confined g.network p.service (Offers (g.awaitBody r s) v.lookups p.service) t u :=
      confined_tryOnce (hp.mono hle) first
    have hrenew := confined_renew (hp.mono hle) hbuilt renewed
    have hq : Offers (g.awaitBody r s) v.lookups p.service q.entry := hbuilt q.entry (offers_of_renew_ok renewed)
    have hsecond : Confined g.network p.service (Offers (g.awaitBody r s) v.lookups p.service) v w := confined_tryOnce hq second
    -- The second attempt looks nothing up, so that the offers up to `v` are those up to the end.
    have hafter : w.lookups = v.lookups := lookups_tryOnce second
    rw [← hafter] at hprepare hfirst hrenew hsecond
    exact (((hprepare.trans hfirst).trans hrenew).trans hsecond).record _

theorem confined_finish (n : Network) (id : String) (used : CacheEntry → Prop) (received : Received) (s : State) :
    Confined n id used s (finish received s).2 :=
  ⟨⟨fun _ _ => rfl, fun _ _ => rfl, .of_sent_eq (sent_finish received s)⟩, fun _ _ => rfl⟩

/-- Whatever comes of a request for a service, it leaves the entries of all other services, the tokens of all other
clients and the CSRF tokens of all other endpoints as they are, and nobody hears of it but the targets and endpoints of
the service, and those to whom its endpoints redirect. What is the service's own is what the cache has for it, or what
its definition says when it is looked up again. -/
theorem dispatch_isolated (g : Gateway) (r : Request) (s : State) (id : String) (hid : g.serviceOf r = .ok id) :
    let after := (g.dispatch r s).2
    Confined g.network id (Offers (g.awaitBody r s) after.lookups id) s after := by
  intro after
  obtain ⟨made, hcourse⟩ := forward_course g r s
  have hforward := hcourse.confined hid
  rcases hpair : g.forward r s with ⟨e | received, t⟩
  · have hafter : after = t := congrArg Prod.snd (dispatch_error hpair)
    rw [hpair] at hforward
    rw [hafter]
    exact hforward
  · have hafter : after = (finish received t).2 := congrArg Prod.snd (dispatch_ok hpair)
    rw [hpair] at hforward
    rw [hafter]
    exact hforward.trans (confined_finish g.network id _ received t)

namespace Quay

def config : Config :=
  { services :=
      [⟨"ferry",
        { targetUrl := "http://[::2]/", credentials := some { oauth := some ⟨"ferry", "a", "http://[::1]/token"⟩ } }⟩,
      ⟨"crane",
        { targetUrl := "http://[::4]/", credentials := some { oauth := some ⟨"crane", "b", "http://[::3]/token"⟩ } }⟩] }

def network : Network where
  connects _ := true
  reply _ s :=
    if s.target = "/token".toList then
      ⟨200, .empty, Bytes.ofText "\x7b\x22access_token\x22:\x22t\x22,\x22expires_in\x22:3600\x7d", 0, false, none⟩
    else ⟨(if s.host = "[::2]".toList then 403 else 200), .empty, [], 0, false, none⟩

def gateway : Gateway := .ofConfig network config

def order (service : String) : Request :=
  ⟨.get, .origin "/".toList, Headers.empty.add .host ⟨Bytes.ofText service, false⟩, .whole []⟩

def busy : State :=
  (gateway.dispatch (order "ferry")
    (gateway.dispatch (order "crane") (.start config (.directory (.ofServices config.services)))).2).2

end Quay

section Quay
open Quay

/-- The ferry is refused twice, and nothing that is the crane's has a part in it. -/
theorem dispatch_isolated_quay :
    let after := (gateway.dispatch (order "ferry") busy).2
    gateway.serviceOf (order "ferry") = .ok "ferry" ∧
      (after.world.sent.drop busy.world.sent.length).map Sent.host =
        ["[::2]", "[::1]", "[::2]"].map String.toList ∧
      ((busy.cache.find? "crane").isSome ∧ (busy.tokens.token? ⟨"crane", "http://[::3]/token"⟩).isSome) ∧
      Confined gateway.network "ferry" (Offers (gateway.awaitBody (order "ferry") busy) after.lookups "ferry") busy
        after :=
  ⟨by decide +kernel, by decide +kernel, by decide +kernel,
    dispatch_isolated gateway (order "ferry") busy "ferry" (by decide +kernel)⟩

end Quay

end
end Gateway
end CredentialGateway
