import CredentialGateway.Proofs.Gateway.Agreement

/-! Runs of a server: what it meets, what callers get from it, and two servers that stay in lockstep through all of it. -/

namespace CredentialGateway

open Http

namespace Server
open Gateway

/-- What a server meets, one after the other. Requests may also be given to its gateway directly. -/
inductive Event
  | request (fresh : HeaderValue) (r : Request)
  | dispatch (r : Request)
  | reload (services : List Service)
  | advance (millis : Nat)
  | sweep

inductive Given
  | response (response : Response)
  | result (result : Except ProxyError Response)

def react (find : Finding) (g : Gateway) : Event → State → List Given × State
  | .request fresh r, s => ([.response (serveBy find g fresh r s).1], (serveBy find g fresh r s).2)
  | .dispatch r, s => ([.result (dispatchBy find g r s).1], (dispatchBy find g r s).2)
  | .reload services, s => ([], s.reload services)
  | .advance millis, s => ([], s.advance millis)
  | .sweep, s => ([], s.evictExpired)

def reactAll (find : Finding) (g : Gateway) : List Event → State → List Given × State
  | [], s => ([], s)
  | e :: es, s =>
    let (given, s) := react find g e s
    let (more, s) := reactAll find g es s
    (given ++ more, s)

def runOf (network : Network) (c : Config) (es : List Event) : List Given × State :=
  reactAll State.entryFor (Gateway.ofConfig network c) es (.start c (.directory (.ofServices c.services)))

inductive Event.Rel (L : List Service → List Service → Prop) : Event → Event → Prop
  | request (fresh : HeaderValue) (r : Request) : Rel L (.request fresh r) (.request fresh r)
  | dispatch (r : Request) : Rel L (.dispatch r) (.dispatch r)
  | reload {services services' : List Service} (h : L services services') : Rel L (.reload services) (.reload services')
  | advance (millis : Nat) : Rel L (.advance millis) (.advance millis)
  | sweep : Rel L .sweep .sweep

structure Lockstep (g : Gateway) (find find' : Finding) (R : State → State → Prop) (E : CacheEntry → CacheEntry → Prop)
    (L : List Service → List Service → Prop) : Prop extends Gateway.Lockstep g find find' R E where
  reload : ∀ s t services services', R s t → L services services' → R (s.reload services) (t.reload services')
  sweep : ∀ s t, R s t → R s.evictExpired t.evictExpired

namespace Lockstep

variable {g : Gateway} {find find' : Finding} {R : State → State → Prop} {E : CacheEntry → CacheEntry → Prop}
  {L : List Service → List Service → Prop} {s t : State}

theorem react (hg : Lockstep g find find' R E L) (hst : R s t) {e e' : Event} (he : e.Rel L e') :
    InStep R (react find g e s) (react find' g e' t) := by
  cases he with
  | request fresh r =>
    have hserve := hg.toLockstep.serve hst fresh r
    exact ⟨congrArg (fun response => [Given.response response]) hserve.result, hserve.after⟩
  | dispatch r =>
    have hdispatch := hg.toLockstep.dispatch hst r
    exact ⟨congrArg (fun result => [Given.result result]) hdispatch.result, hdispatch.after⟩
  | reload hservices => exact ⟨rfl, hg.reload s t _ _ hst hservices⟩
  | advance millis => exact ⟨rfl, hg.advance s t millis hst⟩
  | sweep => exact ⟨rfl, hg.sweep s t hst⟩

theorem reactAll (hg : Lockstep g find find' R E L) (hst : R s t) {es es' : List Event}
    (hes : List.Forall₂ (Event.Rel L) es es') : InStep R (reactAll find g es s) (reactAll find' g es' t) := by
  induction hes generalizing s t with
  | nil => exact ⟨rfl, hst⟩
  | cons he _ ih =>
    obtain ⟨given, u, v, hu, hv, huv⟩ := (hg.react hst he).pairs
    obtain ⟨more, x, y, hx, hy, hxy⟩ := (ih huv).pairs
    simp only [Server.reactAll, hu, hv, hx, hy]
    exact ⟨rfl, hxy⟩

end Lockstep

theorem runOf_agree {v : Veil} {network : Network} (hv : v.Covers network) (c : Config) {services : List Service}
    (hservices : List.Forall₂ (Service.Agree v.definition) c.services services) {es es' : List Event}
    (hes : List.Forall₂ (Event.Rel (List.Forall₂ (Service.Agree v.definition))) es es') :
    InStep (State.Agree v) (runOf network c es) (runOf network { c with services } es') := by
  have hlockstep : Lockstep (Gateway.ofConfig network c) State.entryFor State.entryFor (State.Agree v) v.Entries
      (List.Forall₂ (Service.Agree v.definition)) :=
    { State.Agree.lockstep hv with
      reload := fun _ _ _ _ h hservices => h.reload hservices
      sweep := fun _ _ h => h.evictExpired }
  exact hlockstep.reactAll (State.Agree.start c hservices) hes

end Server
end CredentialGateway
