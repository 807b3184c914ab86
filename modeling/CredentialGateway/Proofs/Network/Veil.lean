import CredentialGateway.Proofs.Network.Client
import Mathlib.Data.List.Forall2

/-! Two runs on one network that differ in what is sent, but only in ways that no reply tells apart. They go the same way
as long as no redirect brings the difference to where it would be seen. -/

namespace CredentialGateway

open Http

structure InStep {α σ τ : Type} (related : σ → τ → Prop) (x : α × σ) (y : α × τ) : Prop where
  result : x.1 = y.1
  after : related x.2 y.2

theorem InStep.pairs {α σ τ : Type} {related : σ → τ → Prop} {x : α × σ} {y : α × τ} (h : InStep related x y) :
    ∃ a s t, x = (a, s) ∧ y = (a, t) ∧ related s t :=
  ⟨x.1, x.2, y.2, rfl, Prod.ext h.result.symm rfl, h.after⟩

inductive OutcomeRel {ε α : Type} (R : α → α → Prop) : Except ε α → Except ε α → Prop
  | error (e : ε) : OutcomeRel R (.error e) (.error e)
  | ok {a b : α} (related : R a b) : OutcomeRel R (.ok a) (.ok b)

structure World.Agree (S : Sent → Sent → Prop) (w w' : World) : Prop where
  clock : w.clock = w'.clock
  sent : List.Forall₂ S w.sent w'.sent

namespace World.Agree

variable {S : Sent → Sent → Prop} {w w' : World}

theorem record (h : w.Agree S w') {s t : Sent} (hst : S s t) : (w.record s).Agree S (w'.record t) :=
  ⟨h.clock, List.rel_append h.sent (.cons hst .nil)⟩

theorem advance (h : w.Agree S w') (millis : Nat) : (w.advance millis).Agree S (w'.advance millis) :=
  ⟨congrArg (· + millis) h.clock, h.sent⟩

theorem waitUntil (h : w.Agree S w') (time : Nat) : (w.waitUntil time).Agree S (w'.waitUntil time) :=
  ⟨congrArg (max · time) h.clock, h.sent⟩

theorem readBody (h : w.Agree S w') (r : Received) : InStep (Agree S) (r.readBody w) (r.readBody w') := by
  unfold Received.readBody
  split
  · exact ⟨rfl, h⟩
  · exact ⟨rfl, h⟩
  · exact ⟨rfl, h.waitUntil r.deadline⟩

end World.Agree

/-- Replies do not tell related requests apart. Related calls send related requests, and go on as related calls where a
reply redirects them. -/
structure Network.Conceals (n : Network) (S : Sent → Sent → Prop) (C : Call → Call → Prop) : Prop where
  reply : ∀ before after s t, List.Forall₂ S before after → S s t → n.reply before s = n.reply after t
  method : ∀ c d, C c d → c.method = d.method
  url : ∀ c d, C c d → c.url = d.url
  sent : ∀ c d, C c d → S c.sent d.sent
  redirected : ∀ before c d r next, C c d → r.OfReply c.method (n.reply before c.sent) → Call.redirectOf c r = some next →
    C (c.redirected r.status next) (d.redirected r.status next)

namespace Call

def initial (method : Method) (u : Url) (headers : Headers → Headers) (body : Bytes) : Call :=
  ⟨method, (splitUserInfo u).1, withAccept (headers (urlHeaders (splitUserInfo u).2)), body⟩

variable {n : Network} {S : Sent → Sent → Prop} {C : Call → Call → Prop} {w w' : World} {c d : Call}

theorem exchange_inStep (hn : n.Conceals S C) (hw : w.Agree S w') (hcd : C c d) (deadline : Nat) :
    InStep (World.Agree S) (exchange n deadline c w) (exchange n deadline d w') := by
  have hsent := hn.sent c d hcd
  have hreply := hn.reply _ _ _ _ hw.sent hsent
  have hrecord := hw.record hsent
  unfold exchange
  rw [hw.clock, hreply, hn.url c d hcd, hn.method c d hcd]
  dsimp only
  split
  · exact ⟨rfl, hw⟩
  · split
    · exact ⟨rfl, hw⟩
    · rw [hrecord.clock]
      split
      · exact ⟨rfl, hrecord.waitUntil deadline⟩
      · split
        · exact ⟨rfl, hrecord.advance _⟩
        · split <;> exact ⟨rfl, hrecord.advance _⟩

theorem redirectOf_congr (h : c.url = d.url) (r : Received) : redirectOf c r = redirectOf d r := by
  unfold redirectOf
  rw [h]

theorem follow_inStep (hn : n.Conceals S C) (hw : w.Agree S w') (hcd : C c d) (deadline : Nat) (first : Url) (left : Nat) :
    InStep (World.Agree S) (follow n deadline first left c w) (follow n deadline first left d w') := by
  induction left generalizing c d w w' with
  | zero =>
    obtain ⟨answer, v, v', hx, hy, hafter⟩ := (exchange_inStep hn hw hcd deadline).pairs
    unfold follow
    rw [hx, hy]
    rcases answer with e | r
    · exact ⟨rfl, hafter⟩
    · dsimp only
      rw [redirectOf_congr (hn.url c d hcd) r, hn.url c d hcd]
      split <;> exact ⟨rfl, hafter⟩
  | succ left ih =>
    obtain ⟨answer, v, v', hx, hy, hafter⟩ := (exchange_inStep hn hw hcd deadline).pairs
    unfold follow
    rw [hx, hy]
    rcases answer with e | r
    · exact ⟨rfl, hafter⟩
    · dsimp only
      rw [← redirectOf_congr (hn.url c d hcd) r]
      split
      · exact ⟨rfl, hafter⟩
      · rename_i next hnext
        have hlocation : redirectOf c r = some next := (Option.ite_none_right_eq_some.mp hnext).2
        split
        · exact ih hafter (hn.redirected w.sent c d r next hcd (exchange_ok hx).2 hlocation)
        · exact ⟨rfl, hafter⟩

theorem request_inStep (hn : n.Conceals S C) (hw : w.Agree S w') {method : Method} {url : String}
    {headers headers' : Headers → Headers} {body body' : Bytes}
    (hinitial : ∀ u, Url.parse url = .ok u → C (initial method u headers body) (initial method u headers' body'))
    (timeout : Nat) :
    InStep (World.Agree S) (request n timeout method url headers body w)
      (request n timeout method url headers' body' w') := by
  unfold request
  split
  · exact ⟨rfl, hw⟩
  · rename_i u hparse
    dsimp only
    split
    · exact ⟨rfl, hw⟩
    · rw [hw.clock]
      exact follow_inStep hn hw (hinitial u hparse) _ _ maxRedirects

theorem send_inStep (hn : n.Conceals S C) (hw : w.Agree S w') (hcd : C c d) (deadline : Nat) :
    InStep (World.Agree S) (send n deadline c w) (send n deadline d w') := by
  unfold send
  rw [hn.url c d hcd]
  split
  · exact ⟨rfl, hw⟩
  · obtain ⟨answer, v, v', hx, hy, hafter⟩ := (exchange_inStep hn hw hcd deadline).pairs
    rw [hx, hy]
    rcases answer with e | r <;> exact ⟨rfl, hafter⟩

end Call
end CredentialGateway
