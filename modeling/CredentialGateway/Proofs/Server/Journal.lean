import CredentialGateway.Proofs.Gateway.Caching
import CredentialGateway.Proofs.Server.Renewal

/-! Runs of a server taken apart into single acts. -/

namespace CredentialGateway

open Http

namespace Server
open Gateway

def statusOf : Except ProxyError Received → Nat
  | .error e => e.status
  | .ok received => received.status

def readingActs : Except ProxyError Received → List Act
  | .error _ => []
  | .ok received => [.read received]

def handlingActs (g : Gateway) (r : Request) (s : State) : List Act :=
  forwardingActs g r s ++
    .noteRequest r.method.token (statusOf (g.forward r s).1) ((g.forward r s).2.now - s.now) ::
      readingActs (g.forward r s).1

def Event.acts (g : Gateway) (s : State) : Event → List Act
  | .request fresh r =>
    if isRouted (withRequestId fresh r) then handlingActs g (withRequestId fresh r) s else []
  | .dispatch r => forwardingActs g r s ++ readingActs (g.forward r s).1
  | .reload services => [.reload services]
  | .advance millis => [.advance millis]
  | .sweep => [.sweep]

def actsOf (g : Gateway) : List Event → State → List Act
  | [], _ => []
  | e :: es, s => e.acts g s ++ actsOf g es (react State.entryFor g e s).2

variable {g : Gateway} {r : Request} {s t : State} {es : List Event}

theorem handle_error {e : ProxyError} (h : g.forward r s = (.error e, t)) :
    handleBy State.entryFor g r s = (e.response, t.record (.request r.method.token e.status (t.now - s.now))) := by
  unfold forward at h
  unfold handleBy
  rw [h]

theorem handle_ok {received : Received} (h : g.forward r s = (.ok received, t)) :
    handleBy State.entryFor g r s =
      finish received (t.record (.request r.method.token received.status (t.now - s.now))) := by
  unfold forward at h
  unfold handleBy
  rw [h]

theorem after_handlingActs (g : Gateway) (r : Request) (s : State) :
    after g (handlingActs g r s) s = (handleBy State.entryFor g r s).2 := by
  have hforward := after_forwardingActs g r s
  unfold handlingActs
  rw [after_append, hforward]
  rcases hpair : g.forward r s with ⟨e | received, t⟩
  · rw [handle_error hpair]
    rfl
  · rw [handle_ok hpair]
    rfl

theorem after_acts (g : Gateway) (e : Event) (s : State) : after g (e.acts g s) s = (react State.entryFor g e s).2 := by
  cases e with
  | request fresh r =>
    show _ = (serveBy State.entryFor g fresh r s).2
    by_cases hrouted : isRouted (withRequestId fresh r)
    · simp only [Event.acts, serveBy, hrouted, if_true]
      exact after_handlingActs g _ s
    · simp only [Event.acts, serveBy, hrouted]
      rfl
  | dispatch r =>
    show _ = (g.dispatch r s).2
    have hforward := after_forwardingActs g r s
    simp only [Event.acts]
    rw [after_append, hforward]
    rcases hpair : g.forward r s with ⟨e | received, t⟩
    · rw [dispatch_error hpair]
      rfl
    · rw [dispatch_ok hpair]
      rfl
  | reload services => rfl
  | advance millis => rfl
  | sweep => rfl

theorem after_actsOf (g : Gateway) (es : List Event) (s : State) :
    after g (actsOf g es s) s = (reactAll State.entryFor g es s).2 := by
  induction es generalizing s with
  | nil => rfl
  | cons e es ih =>
    have hhead := after_acts g e s
    have htail := ih (react State.entryFor g e s).2
    simp only [actsOf]
    rw [after_append, hhead]
    exact htail

end Server
end CredentialGateway
