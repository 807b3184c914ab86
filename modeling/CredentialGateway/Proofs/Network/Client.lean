import CredentialGateway.Network.Client

/-! What a call that succeeds has sent, and how its response relates to the reply of the network. -/

namespace CredentialGateway

open Http

structure Received.OfReply (r : Received) (method : Method) (reply : Reply) : Prop where
  status : r.status = reply.status
  headers : r.headers = reply.headers
  body : r.body = if expectsBody method.token reply.status then reply.body else []
  cut : r.cut = if expectsBody method.token reply.status then reply.cut else none

namespace Call

variable {n : Network} {deadline : Nat} {c : Call} {w w' : World} {r : Received}

theorem exchange_ok (h : exchange n deadline c w = (.ok r, w')) :
    w'.sent = w.sent ++ [c.sent] ∧ r.OfReply c.method (n.reply w.sent c.sent) := by
  unfold exchange at h
  split at h
  · cases h
  · split at h
    · cases h
    · dsimp only at h
      split at h
      · cases h
      · split at h
        · cases h
        · split at h
          · rename_i hbody
            cases h
            exact ⟨rfl, rfl, rfl, (if_pos hbody).symm, (if_pos hbody).symm⟩
          · rename_i hbody
            cases h
            exact ⟨rfl, rfl, rfl, (if_neg hbody).symm, (if_neg hbody).symm⟩

theorem follow_cases (n : Network) (deadline : Nat) (first : Url) (left : Nat) (c : Call) (w : World) :
    ((follow n deadline first left c w).2 = (exchange n deadline c w).2 ∧
        ∀ r, (follow n deadline first left c w).1 = .ok r → (exchange n deadline c w).1 = .ok r) ∨
      ∃ r v next rest, exchange n deadline c w = (.ok r, v) ∧ isRedirect r.status = true ∧
        redirectOf c r = some next ∧ left = rest + 1 ∧
        follow n deadline first left c w = follow n deadline first rest (c.redirected r.status next) v := by
  rcases hexchange : exchange n deadline c w with ⟨timedOut | r, v⟩
  · have hfollow : follow n deadline first left c w = (.error (.failed first timedOut), v) := by rw [follow, hexchange]
    rw [hfollow]
    exact .inl ⟨rfl, fun _ hok => nomatch hok⟩
  · rcases hnext : (if isRedirect r.status then redirectOf c r else none) with - | next
    · have hfollow : follow n deadline first left c w = (.ok r, v) := by
        rw [follow, hexchange]
        simp only [hnext]
      rw [hfollow]
      refine .inl ⟨rfl, fun r' hok => ?_⟩
      rw [Except.ok.inj hok]
    · obtain ⟨hredirect, hlocation⟩ := Option.ite_none_right_eq_some.mp hnext
      -- A redirect is followed if there is one left, and if it leads to the web.
      cases left with
      | zero =>
        have hfollow : follow n deadline first 0 c w = (.error (.tooManyRedirects c.url), v) := by
          rw [follow, hexchange]
          simp only [hnext]
        rw [hfollow]
        exact .inl ⟨rfl, fun _ hok => nomatch hok⟩
      | succ rest =>
        by_cases hweb : isWeb next = true
        · refine .inr ⟨r, v, next, rest, rfl, hredirect, hlocation, rfl, ?_⟩
          rw [follow, hexchange]
          simp only [hnext, hweb, if_true]
        · have hfollow : follow n deadline first (rest + 1) c w = (.error (.unusable next), v) := by
            rw [follow, hexchange]
            simp only [hnext, hweb, Bool.false_eq_true, if_false]
          rw [hfollow]
          exact .inl ⟨rfl, fun _ hok => nomatch hok⟩

end Call
end CredentialGateway
