import CredentialGateway.Gateway.Forward
import CredentialGateway.Proofs.Network.Deadline
import CredentialGateway.Proofs.Network.History

/-! Single attempts. The deadline of an attempt is that of its call, and what comes of it is what the network does with
the call. -/

namespace CredentialGateway

open Http

/-- What a network makes of an attempt, from the moment when its call is begun to the one when its result is there. -/
inductive Attempt.Made (n : Network) (timeout : Nat) (a : Attempt) (w : World) : World → Prop
  | unusable (url : Call.isUsable a.call.url = false)
      (result : a.result = .error (.transport a.service (CallError.unusable a.call.url).message)) : Made n timeout a w w
  | unbegun (url : Call.isUsable a.call.url = true) (time : timeout = 0)
      (result : a.result = .error (.timeout a.service (.ofMillis timeout))) : Made n timeout a w w
  | unconnected (url : Call.isUsable a.call.url = true) (time : 0 < timeout) (connects : n.connects a.call.url = false)
      (result : a.result = .error (.transport a.service (CallError.failed a.call.url false).message)) :
      Made n timeout a w w
  | late (url : Call.isUsable a.call.url = true) (connects : n.connects a.call.url = true)
      (delay : timeout ≤ (n.reply w.sent a.call.sent).delay)
      (result : a.result = .error (.timeout a.service (.ofMillis timeout))) :
      Made n timeout a w ⟨w.clock + timeout, w.sent ++ [a.call.sent]⟩
  | reset (url : Call.isUsable a.call.url = true) (connects : n.connects a.call.url = true)
      (delay : (n.reply w.sent a.call.sent).delay < timeout) (reset : (n.reply w.sent a.call.sent).reset = true)
      (result : a.result = .error (.transport a.service (CallError.failed a.call.url false).message)) :
      Made n timeout a w ⟨w.clock + (n.reply w.sent a.call.sent).delay, w.sent ++ [a.call.sent]⟩
  | answered {received : Received} (url : Call.isUsable a.call.url = true) (connects : n.connects a.call.url = true)
      (delay : (n.reply w.sent a.call.sent).delay < timeout) (reset : (n.reply w.sent a.call.sent).reset = false)
      (reply : received.OfReply a.call.method (n.reply w.sent a.call.sent))
      (deadline : received.deadline = w.clock + timeout) (result : a.result = .ok received) :
      Made n timeout a w ⟨w.clock + (n.reply w.sent a.call.sent).delay, w.sent ++ [a.call.sent]⟩

theorem Attempt.Made.precedes {n : Network} {timeout : Nat} {a : Attempt} {w w' : World}
    (h : Attempt.Made n timeout a w w') : w.Precedes w' := by
  cases h with
  | unusable | unbegun | unconnected => exact .refl w
  | late | reset | answered => exact ⟨List.prefix_append _ _, Nat.le_add_right _ _⟩

theorem Attempt.Made.sent {n : Network} {timeout : Nat} {a : Attempt} {w w' : World} (h : Attempt.Made n timeout a w w') :
    w'.sent = w.sent ∨ w'.sent = w.sent ++ [a.call.sent] := by
  cases h with
  | unusable | unbegun | unconnected => exact .inl rfl
  | late | reset | answered => exact .inr rfl

theorem Attempt.Made.answer {n : Network} {timeout : Nat} {a : Attempt} {w w' : World} {received : Received}
    (h : Attempt.Made n timeout a w w') (hok : a.result = .ok received) :
    w'.sent = w.sent ++ [a.call.sent] ∧ received.OfReply a.call.method (n.reply w.sent a.call.sent) := by
  cases h with
  | unusable _ result | unbegun _ _ result | unconnected _ _ _ result | late _ _ _ result | reset _ _ _ _ result =>
    cases result.symm.trans hok
  | answered _ _ _ _ reply _ result =>
    obtain rfl := Except.ok.inj (result.symm.trans hok)
    exact ⟨rfl, reply⟩

theorem World.waitUntil_record (w : World) (s : Sent) (millis : Nat) :
    (w.record s).waitUntil (w.clock + millis) = ⟨w.clock + millis, w.sent ++ [s]⟩ :=
  congrArg (World.mk · _) (Nat.max_eq_right (Nat.le_add_right _ _))

namespace Attempt

variable {g : Gateway} {a : Attempt} {w w' : World}

theorem made_of_exchange {outcome : Except Bool Received} (hurl : Call.isUsable a.call.url = true)
    (h : a.call.exchange g.network (w.clock + g.timeout) w = (outcome, w'))
    (hresult : a.result = outcome.mapError fun timedOut => g.failureOf a.service (.failed a.call.url timedOut)) :
    a.Made g.network g.timeout w w' := by
  have hanswer (received : Received) (hok : outcome = .ok received) :
      received.OfReply a.call.method (g.network.reply w.sent a.call.sent) ∧ received.deadline = w.clock + g.timeout := by
    subst hok
    have hintime := Call.inTime_exchange g.network (w.clock + g.timeout) a.call w
    exact ⟨(Call.exchange_ok h).2, (hintime.response received (by rw [h])).1⟩
  -- The tests of an exchange, one after the other: each branch that fails is a case of its own.
  unfold Call.exchange at h
  split at h
  · rename_i hover
    cases h
    exact .unbegun hurl (by omega) hresult
  · rename_i hbegun
    split at h
    · rename_i hconnects
      cases h
      exact .unconnected hurl (by omega) (by simpa using hconnects) hresult
    · rename_i hconnects
      rw [Bool.not_eq_true, Bool.not_eq_false'] at hconnects
      dsimp only at h
      split at h
      · rename_i hlate
        cases h
        rw [World.waitUntil_record]
        exact .late hurl hconnects (Nat.le_of_add_le_add_left hlate) hresult
      · rename_i hearly
        have hdelay := Nat.lt_of_add_lt_add_left (Nat.not_le.mp hearly)
        split at h
        · rename_i hreset
          cases h
          exact .reset hurl hconnects hdelay hreset hresult
        · rename_i hreset
          rw [Bool.not_eq_true] at hreset
          obtain ⟨received, rfl, rfl⟩ : ∃ received, outcome = .ok received ∧
              w' = ⟨w.clock + (g.network.reply w.sent a.call.sent).delay, w.sent ++ [a.call.sent]⟩ := by
            split at h <;> (cases h; exact ⟨_, rfl, rfl⟩)
          obtain ⟨hreply, hdeadline⟩ := hanswer received rfl
          exact .answered hurl hconnects hdelay hreset hreply hdeadline hresult

theorem made_of_send {answer : Except CallError Received}
    (h : a.call.send g.network (w.clock + g.timeout) w = (answer, w'))
    (hresult : a.result = answer.mapError (g.failureOf a.service)) : a.Made g.network g.timeout w w' := by
  unfold Call.send at h
  split at h
  · rename_i hurl
    cases h
    exact .unusable (by simpa using hurl) hresult
  · rename_i hurl
    rw [Bool.not_eq_true, Bool.not_eq_false'] at hurl
    split at h <;> (rename_i hexchange; cases h; exact made_of_exchange hurl hexchange hresult)

end Attempt

namespace Gateway

variable {g : Gateway} {e : CacheEntry} {o : Outbound} {h : Headers} {s : Session}

/-- The call has given up by the end of the timeout around it, which never comes first. -/
theorem sendAttempt_eq (g : Gateway) (e : CacheEntry) (o : Outbound) (h : Headers) (s : Session) :
    g.sendAttempt e o h s =
      let answer := (callOf e o h).send g.network (s.world.clock + g.timeout) s.world
      let result := answer.1.mapError (g.failureOf e.service)
      (result, { s with world := answer.2, attempts := s.attempts ++ [⟨e.service, callOf e o h, result⟩] }) := by
  have hends := (Call.inTime_send g.network (s.world.clock + g.timeout) (callOf e o h) s.world).clock
  have hbegins := (Call.precedes_send (n := g.network) (s.world.clock + g.timeout) (callOf e o h) s.world).clock
  rcases hanswer : (callOf e o h).send g.network (s.world.clock + g.timeout) s.world with ⟨answer, world⟩
  rw [hanswer] at hends hbegins
  dsimp only at hends hbegins
  -- So the work always wins against its timeout.
  have htakes : world.clock - s.world.clock ≤ g.timeout := by omega
  have hclock : s.world.clock + (world.clock - s.world.clock) = world.clock := by omega
  unfold sendAttempt
  dsimp only
  simp only [hanswer, withTimeout, if_pos htakes, hclock]
  rfl

theorem made_sendAttempt (g : Gateway) (e : CacheEntry) (o : Outbound) (h : Headers) (s : Session) :
    Attempt.Made g.network g.timeout ⟨e.service, callOf e o h, (g.sendAttempt e o h s).1⟩ s.world
      (g.sendAttempt e o h s).2.world := by
  rw [sendAttempt_eq]
  exact Attempt.made_of_send rfl rfl

end Gateway
end CredentialGateway
