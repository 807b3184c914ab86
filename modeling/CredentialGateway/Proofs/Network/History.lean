import CredentialGateway.Proofs.Network.Client
import CredentialGateway.Token.Endpoint

/-! What calls do to the past: what was sent stays sent, and the clock is never put back. -/

namespace CredentialGateway

open Http

/-- The network can have come from `w` to `w'`. -/
structure World.Precedes (w w' : World) : Prop where
  sent : w.sent <+: w'.sent
  clock : w.clock ≤ w'.clock

namespace World.Precedes

variable {w w' w'' : World}

theorem refl (w : World) : w.Precedes w := ⟨List.prefix_rfl, Nat.le_refl _⟩

theorem trans (h : w.Precedes w') (h' : w'.Precedes w'') : w.Precedes w'' :=
  ⟨h.sent.trans h'.sent, Nat.le_trans h.clock h'.clock⟩

theorem record (w : World) (s : Sent) : w.Precedes (w.record s) := ⟨List.prefix_append _ _, Nat.le_refl _⟩

theorem advance (w : World) (millis : Nat) : w.Precedes (w.advance millis) := ⟨List.prefix_rfl, Nat.le_add_right _ _⟩

theorem waitUntil (w : World) (time : Nat) : w.Precedes (w.waitUntil time) := ⟨List.prefix_rfl, Nat.le_max_left _ _⟩

end World.Precedes

open World.Precedes

theorem Received.sent_readBody (r : Received) (w : World) : (r.readBody w).2.sent = w.sent := by
  unfold readBody
  split <;> rfl

theorem Received.precedes_readBody (r : Received) (w : World) : w.Precedes (r.readBody w).2 := by
  unfold readBody
  split
  · exact refl w
  · exact refl w
  · exact waitUntil w _

namespace Call

variable {n : Network}

theorem precedes_exchange (deadline : Nat) (c : Call) (w : World) : w.Precedes (exchange n deadline c w).2 := by
  unfold exchange
  split
  · exact refl w
  · split
    · exact refl w
    · dsimp only
      have hrecord := record w c.sent
      split
      · exact hrecord.trans (waitUntil _ _)
      · have hreply := hrecord.trans (advance _ (n.reply w.sent c.sent).delay)
        split
        · exact hreply
        · split <;> exact hreply

theorem sent_exchange (n : Network) (deadline : Nat) (c : Call) (w : World) :
    (exchange n deadline c w).2.sent = w.sent ∨ (exchange n deadline c w).2.sent = w.sent ++ [c.sent] := by
  unfold exchange
  split
  · exact .inl rfl
  · split
    · exact .inl rfl
    · right
      dsimp only
      split
      · rfl
      · split
        · rfl
        · split <;> rfl

theorem precedes_follow (deadline : Nat) (first : Url) (left : Nat) (c : Call) (w : World) :
    w.Precedes (follow n deadline first left c w).2 := by
  induction left using Nat.strongRecOn generalizing c w with
  | ind left ih =>
    have hexchange := precedes_exchange (n := n) deadline c w
    obtain ⟨hsame, -⟩ | ⟨r, v, next, rest, heq, -, -, rfl, hrest⟩ := follow_cases n deadline first left c w
    · rwa [hsame]
    · rw [heq] at hexchange
      rw [hrest]
      exact hexchange.trans (ih rest (Nat.lt_succ_self rest) _ _)

theorem precedes_request (timeout : Nat) (method : Method) (url : String) (headers : Headers → Headers) (body : Bytes)
    (w : World) : w.Precedes (request n timeout method url headers body w).2 := by
  unfold request
  split
  · exact refl w
  · dsimp only
    split
    · exact refl w
    · exact precedes_follow _ _ _ _ _

theorem precedes_send (deadline : Nat) (c : Call) (w : World) : w.Precedes (send n deadline c w).2 := by
  have hexchange := precedes_exchange (n := n) deadline c w
  unfold send
  split
  · exact refl w
  · split
    · rename_i heq
      rwa [heq] at hexchange
    · rename_i heq
      rwa [heq] at hexchange

end Call

theorem Token.precedes_requestToken {n : Network} (timeout : Nat) (clientId clientSecret url : String) (w : World) :
    w.Precedes (requestToken n timeout clientId clientSecret url w).2 := by
  have hrequest := Call.precedes_request (n := n) timeout .post url requestHeaders (requestBody clientId clientSecret) w
  unfold requestToken
  split
  · rename_i heq
    rwa [heq] at hrequest
  · rename_i r w' heq
    rw [heq] at hrequest
    split
    · exact hrequest
    · exact hrequest.trans (r.precedes_readBody w')

end CredentialGateway
