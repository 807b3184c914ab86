import CredentialGateway.Proofs.Network.Client
import CredentialGateway.Token.Endpoint

/-! How long calls take. Whatever the network does, no call goes on after its deadline. A call that is sent once waits
for the head of a response until then, unless it fails before. -/

namespace CredentialGateway

open Http

structure InTime {ε : Type} (deadline : Nat) (w : World) (outcome : Except ε Received × World) : Prop where
  clock : outcome.2.clock ≤ max w.clock deadline
  response : ∀ r, outcome.1 = .ok r → r.deadline = deadline ∧ outcome.2.clock < deadline

namespace Call

variable {n : Network} {deadline millis : Nat} {c : Call} {w : World}

theorem inTime_exchange (n : Network) (deadline : Nat) (c : Call) (w : World) :
    InTime deadline w (exchange n deadline c w) := by
  have hstays : w.clock ≤ max w.clock deadline := Nat.le_max_left _ _
  unfold exchange
  split
  · exact ⟨hstays, fun _ hok => nomatch hok⟩
  · split
    · exact ⟨hstays, fun _ hok => nomatch hok⟩
    · dsimp only
      split
      · exact ⟨Nat.le_refl _, fun _ hok => nomatch hok⟩
      · rename_i hlate
        have hearly : w.clock + (n.reply w.sent c.sent).delay < deadline := Nat.not_le.mp hlate
        have hbound : w.clock + (n.reply w.sent c.sent).delay ≤ max w.clock deadline :=
          Nat.le_trans (Nat.le_of_lt hearly) (Nat.le_max_right _ _)
        split
        · exact ⟨hbound, fun _ hok => nomatch hok⟩
        · split
          · refine ⟨hbound, fun r hok => ?_⟩
            cases hok
            exact ⟨rfl, hearly⟩
          · refine ⟨hbound, fun r hok => ?_⟩
            cases hok
            exact ⟨rfl, hearly⟩

theorem inTime_send (n : Network) (deadline : Nat) (c : Call) (w : World) : InTime deadline w (send n deadline c w) := by
  have hexchange := inTime_exchange n deadline c w
  unfold send
  split
  · exact ⟨Nat.le_max_left _ _, fun _ hok => nomatch hok⟩
  · split
    · rename_i heq
      rw [heq] at hexchange
      exact ⟨hexchange.clock, fun _ hok => nomatch hok⟩
    · rename_i r v heq
      rw [heq] at hexchange
      refine ⟨hexchange.clock, fun r' hok => ?_⟩
      cases hok
      exact hexchange.response r rfl

end Call

end CredentialGateway
