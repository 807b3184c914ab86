import CredentialGateway.Proofs.Network.Bodies
import CredentialGateway.Proofs.Network.History

/-! Where the requests of a call get to: to the host of its URL, and from there only as far as redirects lead. -/

namespace CredentialGateway

open Http

/-- From one URL to another by redirects, each of them the answer to a request that was sent after `since` and is among
`sent`. -/
inductive Network.Leads (n : Network) (since sent : List Sent) (origin : Url) : Url → Prop
  | start : Leads n since sent origin (Call.splitUserInfo origin).1
  | next {c : Call} {before : List Sent} {r : Received} {u : Url} (reached : Leads n since sent origin c.url)
      (later : since <+: before) (asked : before ++ [c.sent] <+: sent)
      (answer : r.OfReply c.method (n.reply before c.sent)) (redirect : Call.isRedirect r.status = true)
      (location : Call.redirectOf c r = some u) : Leads n since sent origin u

/-- A request goes to the host of a URL, or to one to which redirects lead from there. -/
def Network.Reaches (n : Network) (since sent : List Sent) (url : String) (x : Sent) : Prop :=
  ∃ origin u, Url.parse url = .ok origin ∧ n.Leads since sent origin u ∧ x.host = u.server

variable {n : Network} {since sent : List Sent} {origin u : Url} {w w' : World}

theorem Network.Leads.mono {since' sent' : List Sent} (h : n.Leads since sent origin u) (hsince : since' <+: since)
    (hsent : sent <+: sent') : n.Leads since' sent' origin u := by
  induction h with
  | start => exact .start
  | next _ later asked answer redirect location ih =>
    exact .next ih (hsince.trans later) (asked.trans hsent) answer redirect location

theorem Network.Reaches.mono {since' sent' : List Sent} {url : String} {x : Sent} (h : n.Reaches since sent url x)
    (hsince : since' <+: since) (hsent : sent <+: sent') : n.Reaches since' sent' url x := by
  obtain ⟨origin, u, hparse, hleads, hhost⟩ := h
  exact ⟨origin, u, hparse, hleads.mono hsince hsent, hhost⟩

def World.Adds (kind : Sent → Prop) (w w' : World) : Prop := ∃ more, w'.sent = w.sent ++ more ∧ ∀ x ∈ more, kind x

theorem World.Adds.of_sent_eq {kind : Sent → Prop} (h : w'.sent = w.sent) : w.Adds kind w' :=
  ⟨[], h.trans (List.append_nil _).symm, fun _ hx => nomatch hx⟩

theorem World.Adds.isPrefix {kind : Sent → Prop} (h : w.Adds kind w') : w.sent <+: w'.sent := by
  obtain ⟨more, hmore, -⟩ := h
  exact ⟨more, hmore.symm⟩

theorem World.Adds.trans {kind : Sent → Prop} {w'' : World} (h : w.Adds kind w') (h' : w'.Adds kind w'') :
    w.Adds kind w'' := by
  obtain ⟨more, hmore, hkind⟩ := h
  obtain ⟨rest, hrest, hkind'⟩ := h'
  refine ⟨more ++ rest, by rw [hrest, hmore, List.append_assoc], fun x hx => ?_⟩
  exact (List.mem_append.mp hx).elim (hkind x) (hkind' x)

theorem World.Adds.mono {kind kind' : Sent → Prop} (h : w.Adds kind w') (himp : ∀ x, kind x → kind' x) :
    w.Adds kind' w' := by
  obtain ⟨more, hmore, hkind⟩ := h
  exact ⟨more, hmore, fun x hx => himp x (hkind x hx)⟩

namespace Call

theorem adds_exchange (n : Network) (deadline : Nat) (c : Call) (w : World) :
    w.Adds (fun x => x.host = c.url.server) (exchange n deadline c w).2 := by
  obtain hnone | hone := sent_exchange n deadline c w
  · exact .of_sent_eq hnone
  · refine ⟨[c.sent], hone, fun x hx => ?_⟩
    rw [List.mem_singleton.mp hx]
    rfl

theorem adds_follow (deadline : Nat) (first : Url) (left : Nat) {c : Call} (hsince : since <+: w.sent)
    (hc : n.Leads since w.sent origin c.url) :
    w.Adds (fun x => ∃ u, n.Leads since (follow n deadline first left c w).2.sent origin u ∧ x.host = u.server)
      (follow n deadline first left c w).2 := by
  induction left using Nat.strongRecOn generalizing c w with
  | ind left ih =>
    have hexchange := adds_exchange n deadline c w
    have hprefix := (precedes_follow (n := n) deadline first left c w).sent
    have hhere (x : Sent) (hx : x.host = c.url.server) :
        ∃ u, n.Leads since (follow n deadline first left c w).2.sent origin u ∧ x.host = u.server :=
      ⟨c.url, hc.mono List.prefix_rfl hprefix, hx⟩
    obtain ⟨hsame, -⟩ | ⟨r, v, next, rest, heq, hredirect, hlocation, rfl, hrest⟩ :=
      follow_cases n deadline first left c w
    · rw [hsame] at hhere ⊢
      exact hexchange.mono hhere
    · obtain ⟨hsent, hreply⟩ := exchange_ok heq
      have hasked : w.sent ++ [c.sent] <+: v.sent := hsent ▸ List.prefix_rfl
      have hreached : n.Leads since v.sent origin c.url :=
        hc.mono List.prefix_rfl ((List.prefix_append _ _).trans hasked)
      have hnext : n.Leads since v.sent origin (c.redirected r.status next).url :=
        .next hreached hsince hasked hreply hredirect hlocation
      have hgoes := ih rest (Nat.lt_succ_self rest) (hsince.trans ((List.prefix_append _ _).trans hasked)) hnext
      rw [heq] at hexchange
      rw [hrest] at hhere ⊢
      exact (hexchange.mono hhere).trans hgoes

theorem adds_request (n : Network) (timeout : Nat) (method : Method) (url : String) (headers : Headers → Headers)
    (body : Bytes) (w : World) :
    w.Adds (n.Reaches w.sent (request n timeout method url headers body w).2.sent url)
      (request n timeout method url headers body w).2 := by
  unfold request
  split
  · exact .of_sent_eq rfl
  · rename_i origin hparse
    dsimp only
    split
    · exact .of_sent_eq rfl
    · have hbegins : n.Leads w.sent w.sent origin (initial method origin headers body).url := .start
      have hfollow := adds_follow (w.clock + timeout) (splitUserInfo origin).1 maxRedirects List.prefix_rfl hbegins
      exact hfollow.mono fun x ⟨u, hleads, hhost⟩ => ⟨origin, u, hparse, hleads, hhost⟩

end Call

theorem Token.adds_requestToken (n : Network) (timeout : Nat) (clientId clientSecret url : String) (w : World) :
    w.Adds (n.Reaches w.sent (requestToken n timeout clientId clientSecret url w).2.sent url)
      (requestToken n timeout clientId clientSecret url w).2 := by
  have hrequest := Call.adds_request n timeout .post url requestHeaders (requestBody clientId clientSecret) w
  unfold requestToken
  split
  · rename_i heq
    rwa [heq] at hrequest
  · rename_i r v heq
    rw [heq] at hrequest
    split
    · exact hrequest
    · have hread : (r.readBody v).2.sent = v.sent := r.sent_readBody v
      dsimp only
      rw [hread]
      exact hrequest.trans (.of_sent_eq hread)

end CredentialGateway
