import CredentialGateway.Proofs.Cache.Basic
import CredentialGateway.Proofs.Gateway.Forwarded
import CredentialGateway.Proofs.Gateway.Provenance

/-! What a gateway needs for its CSRF tokens to stem from its callers: services that do the handshake in the name of the
caller, and callers whose Authorization is among those that may ask. Every course of a request keeps it so. -/

namespace CredentialGateway

open Http

def Directory.IsOpen (d : Directory) (url : String) : Prop :=
  ∀ e ∈ d.entries, (Strategy.ofCredentials e.2.credentials).IsOpen url

def Service.IsOpen (s : Service) (url : String) : Prop := (Strategy.ofCredentials s.definition.credentials).IsOpen url

theorem Directory.isOpen_ofServices {services : List Service} {url : String} (h : ∀ s ∈ services, s.IsOpen url) :
    (Directory.ofServices services).IsOpen url := by
  have hfold {d : Directory} (hd : d.IsOpen url) :
      (services.foldl (fun d s => d.insert (Unicode.lowerText s.id) s.definition) d).IsOpen url := by
    induction services generalizing d with
    | nil => exact hd
    | cons s rest ih =>
      obtain ⟨hs, hrest⟩ := List.forall_mem_cons.mp h
      refine ih hrest fun e he => ?_
      rcases List.mem_append.mp he with hold | hnew
      · exact hd e (List.mem_filter.mp hold).1
      · obtain rfl := List.mem_singleton.mp hnew
        exact hs
  exact hfold fun e he => nomatch he

theorem Directory.IsOpen.lookup {d : Directory} {url id : String} {definition : ServiceDefinition} (h : d.IsOpen url)
    (hlookup : d.lookup id = .ok definition) : (Strategy.ofCredentials definition.credentials).IsOpen url := by
  unfold Directory.lookup at hlookup
  split at hlookup
  · rename_i found hfound
    cases hlookup
    obtain ⟨e, he, rfl⟩ := Option.map_eq_some_iff.mp hfound
    exact h e (List.mem_of_find?_eq_some he)
  · cases hlookup

namespace Gateway

def identity (r : Request) : Option HeaderValue := (Outbound.forwardedHeaders r.headers).get? .authorization

/-- If a handshake is done for a request, it is done in a name that `asked` admits. -/
def IsAdmitted (asked : Option HeaderValue → Prop) (r : Request) : Prop :=
  r.headers.get? .accessToken = none → asked (identity r)

/-- The token that a gateway holds for an endpoint was handed out to one of those whom `asked` admits, and its services
do handshakes with the endpoint in the name of callers. -/
structure Provides (g : Gateway) (url : String) (asked : Option HeaderValue → Prop) (s : State) : Prop where
  session : s.toSession.Provides g.toReach url asked
  cache : ∀ e ∈ s.cache.entries, e.strategy.IsOpen url
  directory : ∃ d, s.metadata = .directory d ∧ d.IsOpen url

variable {g : Gateway} {url : String} {asked : Option HeaderValue → Prop} {r : Request} {s t u : State} {p : Ready}

namespace Provides

theorem record (h : g.Provides url asked s) (m : Metric) : g.Provides url asked (s.record m) :=
  ⟨h.session, h.cache, h.directory⟩

theorem withCache (h : g.Provides url asked s) {c : Cache} (hc : ∀ e ∈ c.entries, e.strategy.IsOpen url) :
    g.Provides url asked (s.withCache c) := ⟨h.session, hc, h.directory⟩

theorem withSession (h : g.Provides url asked s) {x : Session} (hx : x.Provides g.toReach url asked) :
    g.Provides url asked { s with toSession := x } := ⟨hx, h.cache, h.directory⟩

theorem advance (h : g.Provides url asked s) (millis : Nat) : g.Provides url asked (s.advance millis) :=
  h.withSession (h.session.mono List.prefix_rfl fun _ ht => ht)

theorem rebuildEntry (h : g.Provides url asked s) (id : String) :
    g.Provides url asked (State.rebuildEntry id s).2 ∧
      ∀ e, (State.rebuildEntry id s).1 = .ok e → e.strategy.IsOpen url := by
  obtain ⟨d, hd, hopen⟩ := h.directory
  have hcounted : g.Provides url asked { s with lookups := s.lookups + 1 } := ⟨h.session, h.cache, h.directory⟩
  simp only [State.rebuildEntry, Metadata.lookup_of_directory hd]
  rcases hdefinition : d.lookup id with err | definition
  · refine ⟨hcounted, fun e he => ?_⟩
    cases he
  · have hstrategy := hopen.lookup hdefinition
    simp only [State.storeEntry, Cache.put]
    rcases Cache.readTarget definition.targetUrl with reason | target
    · refine ⟨hcounted, fun e he => ?_⟩
      cases he
    · refine ⟨hcounted.withCache fun e he => ?_, fun e he => ?_⟩
      · rcases List.mem_append.mp he with hold | hnew
        · exact h.cache e (List.mem_filter.mp hold).1
        · obtain rfl := List.mem_singleton.mp hnew
          exact hstrategy
      · cases he
        exact hstrategy

theorem entryFor (h : g.Provides url asked s) (id : String) :
    g.Provides url asked (State.entryFor id s).2 ∧
      ∀ e, (State.entryFor id s).1 = .ok e → e.strategy.IsOpen url := by
  have hcached : g.Provides url asked (s.cachedEntry id).2 := by
    unfold State.cachedEntry
    dsimp only
    split
    · exact (h.withCache fun e he => h.cache e (Cache.mem_of_mem_get he)).record _
    · exact h.record _
  have hfound {e : CacheEntry} (he : (s.cachedEntry id).1 = some e) : e ∈ s.cache.entries :=
    (Cache.find?_spec (Cache.find?_of_get he)).1
  unfold State.entryFor
  split
  · rename_i e t heq
    rw [heq] at hcached hfound
    refine ⟨hcached, fun e' he' => ?_⟩
    cases he'
    exact h.cache e (hfound rfl)
  · rename_i t heq
    rw [heq] at hcached
    exact hcached.rebuildEntry id

theorem admits {service : String} {o : Outbound} (hout : g.outboundOf r = .ok (service, o))
    (hasked : IsAdmitted asked r) : o.accessToken = none → asked (o.headers.get? .authorization) := by
  intro htoken
  obtain ⟨-, -, -, hheaders⟩ := outboundOf_spec hout
  rw [accessToken_of_outboundOf hout, Option.map_eq_none_iff] at htoken
  rw [hheaders]
  exact hasked htoken

theorem settle (h : g.Provides url asked s) {service : String} {o : Outbound} {e : CacheEntry}
    {outcome : Except ProxyError Ready} (hopen : e.strategy.IsOpen url)
    (hasked : o.accessToken = none → asked (o.headers.get? .authorization))
    (hsettle : g.settle service o e s = (outcome, t)) : g.Provides url asked t := by
  rw [state_settle hsettle]
  refine h.withSession ?_
  unfold authorize
  split
  · exact h.session
  · rename_i htoken
    have hsetup := h.session.setup hopen o.headers (hasked htoken)
    split
    · rename_i heq
      rwa [heq] at hsetup
    · rename_i heq
      rwa [heq] at hsetup

theorem prepare (h : g.Provides url asked s) (hasked : IsAdmitted asked r) {outcome : Except ProxyError Ready}
    (hprepare : g.prepare r s = (outcome, t)) : g.Provides url asked t := by
  have harrived : g.Provides url asked (g.awaitBody r s) := h.advance (g.arrival r)
  obtain rfl | ⟨service, o, hout, hentry⟩ := prepare_cases hprepare
  · exact harrived
  · obtain ⟨hafter, hopen⟩ := harrived.entryFor service
    obtain rfl | ⟨entry, u, hok, hsettle⟩ := hentry
    · exact hafter
    · rw [hok] at hafter hopen
      exact hafter.settle (hopen entry rfl) (admits hout hasked) hsettle

theorem tryOnce (h : g.Provides url asked s) {result : Except ProxyError Received}
    (htry : g.tryOnce p s = (result, t)) : g.Provides url asked t := by
  cases htry
  exact h.withSession (h.session.mono (made_sendAttempt g _ _ _ _).precedes.sent fun _ ht => ht)

theorem renew (h : g.Provides url asked s)
    (hasked : p.outbound.accessToken = none → asked (p.outbound.headers.get? .authorization))
    {outcome : Except ProxyError Ready} (hrenew : g.renew p s = (outcome, t)) : g.Provides url asked t := by
  have hreset := h.withSession (h.session.reset p.entry.strategy)
  obtain ⟨hafter, hopen⟩ := hreset.rebuildEntry p.service
  obtain rfl | ⟨entry, u, hok, hsettle⟩ := renew_cases hrenew
  · exact hafter
  · rw [hok] at hafter hopen
    exact hafter.settle (hopen entry rfl) hasked hsettle

theorem course (h : g.Provides url asked s) (hasked : IsAdmitted asked r) {made : List Attempt}
    {last : Except ProxyError Received} {after : State} (hcourse : Course g r s made last after) :
    g.Provides url asked after := by
  cases hcourse with
  | refused prepared => exact h.prepare hasked prepared
  | single prepared first _ => exact (h.prepare hasked prepared).tryOnce first
  | stranded prepared first _ renewed =>
    obtain ⟨hout, -⟩ := prepare_spec prepared
    exact (((h.prepare hasked prepared).tryOnce first).renew (admits hout hasked) renewed).record _
  | renewed prepared first _ renewed second =>
    obtain ⟨hout, -⟩ := prepare_spec prepared
    exact ((((h.prepare hasked prepared).tryOnce first).renew (admits hout hasked) renewed).tryOnce second).record _

theorem forward (h : g.Provides url asked s) (hasked : IsAdmitted asked r) :
    g.Provides url asked (g.forward r s).2 := by
  obtain ⟨made, hcourse⟩ := forward_course g r s
  exact h.course hasked hcourse

theorem finish (h : g.Provides url asked s) (received : Received) :
    g.Provides url asked (Gateway.finish received s).2 :=
  h.withSession (h.session.mono (sent_finish received s ▸ List.prefix_rfl) fun _ ht => ht)

theorem dispatch (h : g.Provides url asked s) (hasked : IsAdmitted asked r) :
    g.Provides url asked (g.dispatch r s).2 := by
  have hforward := h.forward hasked
  rcases heq : g.forward r s with ⟨e | received, t⟩
  · rw [heq] at hforward
    rwa [dispatch_error heq]
  · rw [heq] at hforward
    rw [dispatch_ok heq]
    exact hforward.finish received

theorem settled (h : g.Provides url asked s) (hasked : IsAdmitted asked r) (hsettled : g.Settled r s p t) :
    g.Provides url asked t := by
  cases hsettled with
  | first prepared => exact h.prepare hasked prepared
  | second prepared first _ renewed =>
    obtain ⟨hout, -⟩ := prepare_spec prepared
    exact ((h.prepare hasked prepared).tryOnce first).renew (admits hout hasked) renewed

theorem reload (h : g.Provides url asked s) {services : List Service} (hservices : ∀ x ∈ services, x.IsOpen url) :
    g.Provides url asked (s.reload services) := by
  obtain ⟨d, hd, -⟩ := h.directory
  unfold State.reload
  rw [hd]
  exact ⟨h.session, fun e he => (nomatch he), _, rfl, Directory.isOpen_ofServices hservices⟩

theorem evictExpired (h : g.Provides url asked s) : g.Provides url asked s.evictExpired :=
  h.withCache fun e he => h.cache e (List.mem_filter.mp he).1

end Provides
end Gateway
end CredentialGateway
