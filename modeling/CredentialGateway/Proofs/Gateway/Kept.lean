import CredentialGateway.Proofs.Gateway.Attempt
import CredentialGateway.Proofs.Gateway.Entries
import CredentialGateway.Proofs.Gateway.Provenance

/-! Properties of sessions that outlast requests. What is kept by the single things that a gateway does to a session is
kept by every course that a request can take. -/

namespace CredentialGateway

open Http

/-- The property depends on the network so far and on the secrets only. It is kept while time passes and other requests
are sent, while tokens are asked for, and when the secrets of one of these strategies are dropped. -/
structure Session.Kept (r : Reach) (resets : Strategy → Prop) (P : Session → Prop) : Prop where
  untouched : ∀ s t : Session, s.Untouched t → P s → P t
  later : ∀ (s : Session) (w : World), s.world.Precedes w → P s → P { s with world := w }
  getToken : ∀ key secret s, P s → P (Session.getToken r key secret s).2
  getCsrfToken : ∀ url authorization s, P s → P (Session.getCsrfToken r url authorization s).2
  reset : ∀ strategy s, resets strategy → P s → P (s.reset strategy)

namespace Gateway

theorem tryOnce_spec {g : Gateway} {p : Ready} {s t : State} {result : Except ProxyError Received}
    (h : g.tryOnce p s = (result, t)) :
    s.world.Precedes t.world ∧ t.tokens = s.tokens ∧ t.csrf = s.csrf := by
  cases h
  exact ⟨(made_sendAttempt g p.entry p.outbound p.headers s.toSession).precedes, rfl, rfl⟩

def Refused (g : Gateway) (r : Request) (s : State) (p : Ready) (u : State) : Prop :=
  ∃ t result, g.prepare r s = (.ok p, t) ∧ g.tryOnce p t = (result, u) ∧ IsForbidden result

end Gateway

namespace Session.Kept
open Gateway

variable {n : Reach} {g : Gateway} {resets : Strategy → Prop} {P : Session → Prop} {r : Request} {s t u : State}
  {p : Ready}

theorem setMechanism (h : Kept n resets P) (m : Mechanism) (headers : Headers) {x : Session} (hx : P x) :
    P (x.setMechanism n m headers).2 := by
  obtain hsame | ⟨clientId, secret, url, -, hget⟩ := session_setMechanism n m headers x
  · rwa [hsame]
  · rw [hget]
    exact h.getToken ⟨clientId, url⟩ secret x hx

theorem setup (h : Kept n resets P) (strategy : Strategy) (headers : Headers) {x : Session} (hx : P x) :
    P (x.setup n strategy headers).2 := by
  have hmechanism := h.setMechanism strategy.mechanism headers hx
  obtain hsame | ⟨url, authorization, -, hget⟩ := session_setup n strategy headers x
  · rwa [hsame]
  · rw [hget]
    exact h.getCsrfToken url authorization _ hmechanism

theorem settle (h : Kept g.toReach resets P) {service : String} {o : Outbound} {e : CacheEntry}
    {outcome : Except ProxyError Ready} (hs : P s.toSession) (hsettle : g.settle service o e s = (outcome, t)) :
    P t.toSession := by
  rw [state_settle hsettle]
  obtain hsame | hsetup := session_authorize g e o s.toSession
  · rwa [hsame]
  · rw [hsetup]
    exact h.setup e.strategy o.headers hs

theorem prepare (h : Kept g.toReach resets P) (hs : P s.toSession) {outcome : Except ProxyError Ready}
    (hprepare : g.prepare r s = (outcome, t)) : P t.toSession := by
  have harrived := h.later s.toSession _ (World.Precedes.advance s.world (g.arrival r)) hs
  obtain rfl | ⟨service, o, -, hentry⟩ := prepare_cases hprepare
  · exact harrived
  · have hfound := h.untouched _ _ (untouched_entryFor service (g.awaitBody r s)) harrived
    obtain rfl | ⟨entry, u, hok, hsettle⟩ := hentry
    · exact hfound
    · rw [hok] at hfound
      exact h.settle hfound hsettle

theorem tryOnce (h : Kept g.toReach resets P) (hs : P s.toSession) {result : Except ProxyError Received}
    (htry : g.tryOnce p s = (result, t)) : P t.toSession := by
  obtain ⟨hworld, htokens, hcsrf⟩ := tryOnce_spec htry
  exact h.untouched { s.toSession with world := t.world } t.toSession ⟨rfl, htokens, hcsrf⟩ (h.later _ _ hworld hs)

theorem renew (h : Kept g.toReach resets P) (hs : P s.toSession) (hreset : resets p.entry.strategy)
    {outcome : Except ProxyError Ready} (hrenew : g.renew p s = (outcome, t)) : P t.toSession := by
  have hdropped := h.reset p.entry.strategy s.toSession hreset hs
  have hentry := h.untouched _ _
    (untouched_rebuildEntry p.service { s with toSession := s.toSession.reset p.entry.strategy }) hdropped
  obtain rfl | ⟨entry, u, hok, hsettle⟩ := renew_cases hrenew
  · exact hentry
  · rw [hok] at hentry
    exact h.settle hentry hsettle

theorem record (h : Kept g.toReach resets P) (hs : P s.toSession) (m : Metric) : P (s.record m).toSession :=
  h.untouched s.toSession _ ⟨rfl, rfl, rfl⟩ hs

theorem course (h : Kept g.toReach resets P) (hs : P s.toSession)
    (hresets : ∀ p u, g.Refused r s p u → resets p.entry.strategy) {made : List Attempt}
    {last : Except ProxyError Received} {after : State} (hcourse : Course g r s made last after) : P after.toSession := by
  cases hcourse with
  | refused prepared => exact h.prepare hs prepared
  | single prepared first _ => exact h.tryOnce (h.prepare hs prepared) first
  | stranded prepared first forbidden renewed =>
    have hreset := hresets _ _ ⟨_, _, prepared, first, forbidden⟩
    exact h.record (h.renew (h.tryOnce (h.prepare hs prepared) first) hreset renewed) _
  | renewed prepared first forbidden renewed second =>
    have hreset := hresets _ _ ⟨_, _, prepared, first, forbidden⟩
    exact h.record (h.tryOnce (h.renew (h.tryOnce (h.prepare hs prepared) first) hreset renewed) second) _

theorem forward (h : Kept g.toReach resets P) (hs : P s.toSession)
    (hresets : ∀ p u, g.Refused r s p u → resets p.entry.strategy) : P (g.forward r s).2.toSession := by
  obtain ⟨made, hcourse⟩ := forward_course g r s
  exact h.course hs hresets hcourse

theorem finish (h : Kept g.toReach resets P) (hs : P s.toSession) (received : Received) :
    P (Gateway.finish received s).2.toSession :=
  h.later s.toSession _ (received.precedes_readBody s.world) hs

end Session.Kept

theorem Session.kept_precedes (n : Reach) (w : World) :
    Kept n (fun _ => True) fun s => w.Precedes s.world where
  untouched s t huntouched h := by rwa [huntouched.world]
  later _ _ hw h := h.trans hw
  getToken key secret s h := by
    unfold Session.getToken
    split
    · exact h
    · split
      · exact h
      · exact h.trans (Token.precedes_requestToken _ _ _ _ _)
      · exact h.trans (Token.precedes_requestToken _ _ _ _ _)
  getCsrfToken url authorization s h := by
    rcases getCsrfToken_cases n url authorization s with ⟨t, -, hget⟩ | hshaken
    · rwa [hget]
    · exact h.trans hshaken.world
  reset strategy s _ h := by rwa [world_reset]

end CredentialGateway
