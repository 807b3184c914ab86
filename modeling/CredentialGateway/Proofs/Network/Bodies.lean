import CredentialGateway.Network.Rules
import CredentialGateway.Proofs.Network.Veil

/-! Two runs that differ in the bodies of requests to some hosts. On a network that does not look at these bodies they
go the same way, and the bodies get no further than to the hosts that redirects resend them to. -/

namespace CredentialGateway

open Http

def Url.server (u : Url) : List Char := (u.authority.map Url.Authority.hostPort).getD []

namespace Sent

def bare (s : Sent) : Sent := { s with body := [] }

def Twin (hosts : List Char → Prop) (s t : Sent) : Prop := s = t ∨ hosts s.host ∧ s.bare = t.bare

variable {hosts : List Char → Prop} {s t : Sent}

theorem Twin.bare_eq (h : s.Twin hosts t) : s.bare = t.bare := by
  rcases h with rfl | ⟨-, h⟩
  · rfl
  · exact h

theorem Twin.host_eq (h : s.Twin hosts t) : s.host = t.host :=
  show s.bare.host = t.bare.host from congrArg Sent.host h.bare_eq

theorem bare_map_eq {before after : List Sent} (h : List.Forall₂ (Twin hosts) before after) :
    before.map bare = after.map bare := by
  induction h with
  | nil => rfl
  | cons hst _ ih => rw [List.map_cons, List.map_cons, hst.bare_eq, ih]

theorem filter_host_eq {before after : List Sent} (h : List.Forall₂ (Twin hosts) before after) {host : List Char}
    (hhost : ¬ hosts host) : (before.filter fun s => s.host == host) = after.filter fun s => s.host == host := by
  induction h with
  | nil => rfl
  | @cons s t before after hst _ ih =>
    by_cases hs : s.host = host
    · rcases hst with rfl | ⟨hmem, -⟩
      · rw [List.filter_cons_of_pos (by simp [hs]), List.filter_cons_of_pos (by simp [hs]), ih]
      · exact absurd (hs ▸ hmem) hhost
    · have ht : t.host ≠ host := hst.host_eq ▸ hs
      rw [List.filter_cons_of_neg (by simp [hs]), List.filter_cons_of_neg (by simp [ht]), ih]

end Sent

namespace Network

def IsBlind (n : Network) (hosts : List Char → Prop) : Prop :=
  ∀ before after s t, List.Forall₂ (Sent.Twin hosts) before after → s.Twin hosts t → n.reply before s = n.reply after t

/-- Redirects by which a body is sent again do not lead away from `hosts`. -/
def KeepsBodies (n : Network) (hosts : List Char → Prop) : Prop :=
  ∀ before c r next, r.OfReply c.method (n.reply before c.sent) → r.status = 307 ∨ r.status = 308 →
    Call.redirectOf c r = some next → hosts c.url.server → hosts next.server

theorem isBlind_ofRules (rules : List Rule) (hosts : List Char → Prop) : (ofRules rules).IsBlind hosts := by
  have hbare (before : List Sent) (s : Sent) :
      replyOf rules before s = replyOf rules (before.map Sent.bare) s.bare := by
    have hrule (s : Sent) : ruleOf rules s.bare = ruleOf rules s := rfl
    have hturn (i : Nat) : ((before.map Sent.bare).filter fun t => ruleOf rules t == some i).length =
        (before.filter fun t => ruleOf rules t == some i).length := by
      rw [List.filter_map, List.length_map]
      rfl
    simp only [replyOf, hrule, hturn]
  intro before after s t hsent hst
  change replyOf rules before s = replyOf rules after t
  rw [hbare, hbare after, Sent.bare_map_eq hsent, hst.bare_eq]

theorem replyOf_spec (rules : List Rule) (before : List Sent) (s : Sent) :
    replyOf rules before s = .plain 404 "no rule" ∨ ∃ r ∈ rules, replyOf rules before s ∈ r.replies := by
  unfold replyOf
  split
  · exact .inl rfl
  · rename_i i hrule
    obtain ⟨hi, -⟩ := List.findIdx?_eq_some_iff_getElem.mp hrule
    simp only [List.getElem?_eq_getElem hi, Option.map_some, Option.getD_some]
    generalize (min _ _ : Nat) = turn
    cases hturn : rules[i].replies[turn]? with
    | none => exact .inl rfl
    | some reply => exact .inr ⟨rules[i], List.getElem_mem hi, List.mem_of_getElem? hturn⟩

theorem keepsBodies_ofRules {rules : List Rule} (hosts : List Char → Prop)
    (h : ∀ r ∈ rules, ∀ reply ∈ r.replies, reply.status ≠ 307 ∧ reply.status ≠ 308) :
    (ofRules rules).KeepsBodies hosts := by
  intro before c r next hreply hstatus
  have hneither : r.status ≠ 307 ∧ r.status ≠ 308 := by
    rw [hreply.status]
    change (replyOf rules before c.sent).status ≠ 307 ∧ (replyOf rules before c.sent).status ≠ 308
    rcases replyOf_spec rules before c.sent with hnone | ⟨rule, hrule, hmem⟩
    · rw [hnone]
      decide
    · exact h rule hrule _ hmem
  exact absurd hstatus (not_or.mpr hneither)

end Network

structure Call.Twin (hosts : List Char → Prop) (c d : Call) : Prop where
  method : c.method = d.method
  url : c.url = d.url
  headers : c.headers = d.headers
  body : c.body = d.body ∨ hosts c.url.server

namespace Call

variable {n : Network} {hosts : List Char → Prop} {c d : Call}

theorem Twin.refl (c : Call) : c.Twin hosts c := ⟨rfl, rfl, rfl, .inl rfl⟩

theorem Twin.sent (h : c.Twin hosts d) : c.sent.Twin hosts d.sent := by
  obtain ⟨method, url, headers, body⟩ := c
  obtain ⟨method', url', headers', body'⟩ := d
  obtain ⟨rfl, rfl, rfl, rfl | hhost⟩ := h
  · exact .inl rfl
  · exact .inr ⟨hhost, rfl⟩

theorem splitUserInfo_server (u : Url) : (splitUserInfo u).1.server = u.server := by
  have hwithout : u.withoutUserInfo.server = u.server := by
    obtain ⟨scheme, authority, path, query, fragment⟩ := u
    cases authority <;> rfl
  unfold splitUserInfo
  split
  · rfl
  · split
    · rfl
    · rw [apply_ite Prod.fst, apply_ite Url.server, hwithout, ite_self]

theorem twin_initial {u : Url} {body body' : Bytes} (hbody : body = body' ∨ hosts u.server) (method : Method)
    (headers : Headers → Headers) :
    (initial method u headers body).Twin hosts (initial method u headers body') := by
  refine ⟨rfl, rfl, rfl, hbody.imp_right fun hhost => ?_⟩
  change hosts (splitUserInfo u).1.server
  rwa [splitUserInfo_server]

theorem Twin.redirected (h : c.Twin hosts d) {r : Received} {next : Url}
    (hkeeps : r.status = 307 ∨ r.status = 308 → hosts c.url.server → hosts next.server) :
    (c.redirected r.status next).Twin hosts (d.redirected r.status next) := by
  obtain ⟨method, url, headers, body⟩ := c
  obtain ⟨method', url', headers', body'⟩ := d
  obtain ⟨rfl, rfl, rfl, hbody⟩ := h
  refine ⟨rfl, rfl, rfl, ?_⟩
  change (if r.status = 307 ∨ r.status = 308 then body else []) =
    (if r.status = 307 ∨ r.status = 308 then body' else []) ∨ hosts next.server
  by_cases hresends : r.status = 307 ∨ r.status = 308
  · rw [if_pos hresends, if_pos hresends]
    exact hbody.imp_right (hkeeps hresends)
  · exact .inl ((if_neg hresends).trans (if_neg hresends).symm)

end Call

theorem Network.conceals_bodies {n : Network} {hosts : List Char → Prop} (hn : n.IsBlind hosts)
    (hkeeps : n.KeepsBodies hosts) : n.Conceals (Sent.Twin hosts) (Call.Twin hosts) where
  reply := hn
  method _ _ h := h.method
  url _ _ h := h.url
  sent _ _ h := h.sent
  redirected before c _ r next h hreply hnext :=
    h.redirected fun hresends hhost => hkeeps before c r next hreply hresends hnext hhost

end CredentialGateway
