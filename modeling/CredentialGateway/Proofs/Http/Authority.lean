import CredentialGateway.Http.RequestUri
import Mathlib.Data.List.TakeWhile

/-! Authorities: the characters that they can have, and the host in them. -/

namespace CredentialGateway.Http

def IsGraphic (c : Char) : Prop := 0x21 ≤ c.toNat ∧ c.toNat < 0x7f

instance : DecidablePred IsGraphic := fun _ => inferInstanceAs (Decidable (_ ∧ _))

namespace RequestUri

def hostAndPort (authority : List Char) : List Char := (authority.reverse.takeWhile (· ≠ '@')).reverse

/-- The host in an authority. A port begins at a colon, but an address in brackets has colons of its own. -/
def hostPart (authority : List Char) : List Char :=
  match hostAndPort authority with
  | '[' :: rest => '[' :: (rest.takeWhile (· ≠ ']') ++ [']'])
  | rest => rest.takeWhile (· ≠ ':')

variable {c : Char} {cs : List Char}

theorem hostAndPort_eq_self (hat : '@' ∉ cs) : hostAndPort cs = cs := by
  have hkeep : cs.reverse.takeWhile (· ≠ '@') = cs.reverse :=
    List.takeWhile_eq_self_iff.mpr fun c hc => decide_eq_true fun heq => hat (heq ▸ List.mem_reverse.mp hc)
  rw [hostAndPort, hkeep, List.reverse_reverse]

theorem hostPart_bracket {rest : List Char} (hat : '@' ∉ '[' :: rest) :
    hostPart ('[' :: rest) = '[' :: (rest.takeWhile (· ≠ ']') ++ [']']) := by
  rw [hostPart, hostAndPort_eq_self hat]
  rfl

theorem hostPart_name (hat : '@' ∉ cs) (hopen : '[' ∉ cs.head?) : hostPart cs = cs.takeWhile (· ≠ ':') := by
  rw [hostPart, hostAndPort_eq_self hat]
  split
  · exact absurd rfl hopen
  · rfl

theorem graphic_of_all (h : cs.all (fun c => decide (IsGraphic c)) = true) : ∀ c ∈ cs, IsGraphic c := fun c hc =>
  of_decide_eq_true (List.all_eq_true.mp h c hc)

theorem graphic_of_isAuthorityChar (h : isAuthorityChar c = true) : IsGraphic c := by
  rcases Bool.or_eq_true_iff.mp h with hletter | hmark
  · unfold Char.isAlphanum Char.isAlpha Char.isUpper Char.isLower Char.isDigit at hletter
    simp only [Bool.or_eq_true, Bool.and_eq_true, decide_eq_true_eq, ge_iff_le, UInt32.le_iff_toNat_le] at hletter
    change ((65 ≤ c.toNat ∧ c.toNat ≤ 90) ∨ (97 ≤ c.toNat ∧ c.toNat ≤ 122)) ∨ (48 ≤ c.toNat ∧ c.toNat ≤ 57) at hletter
    unfold IsGraphic
    omega
  · exact graphic_of_all (by decide) c (List.contains_iff_mem.mp hmark)

theorem graphic_of_step {s t : AuthorityScan} (h : s.step c = some t) : IsGraphic c := by
  by_cases hmark : c ∈ ":[]@%".toList
  · exact graphic_of_all (by decide) c hmark
  · simp only [String.reduceToList, List.mem_cons, List.not_mem_nil, or_false, not_or] at hmark
    obtain ⟨hcolon, hopen, hclose, hat, hpercent⟩ := hmark
    rw [AuthorityScan.step, if_neg hcolon, if_neg hopen, if_neg hclose, if_neg hat, if_neg hpercent] at h
    split at h
    · rename_i hchar
      exact graphic_of_isAuthorityChar hchar
    · cases h

theorem graphic_of_scan {s t : AuthorityScan} (h : cs.foldlM AuthorityScan.step s = some t) :
    ∀ c ∈ cs, IsGraphic c := by
  induction cs generalizing s with
  | nil => exact List.forall_mem_nil _
  | cons c cs ih =>
    rw [List.foldlM_cons] at h
    obtain ⟨next, hstep, hrest⟩ := Option.bind_eq_some_iff.mp h
    exact List.forall_mem_cons.mpr ⟨graphic_of_step hstep, ih hrest⟩

theorem graphic_of_isAuthority (h : isAuthority cs = true) : ∀ c ∈ cs, IsGraphic c := by
  unfold isAuthority at h
  split at h
  · rename_i s hscan
    exact graphic_of_scan hscan
  · cases h

theorem isAuthority_of_parse? {target : String} {scheme authority pq : List Char}
    (h : parse? target = some (.absolute scheme authority pq)) : isAuthority authority = true := by
  unfold parse? ofChars? at h
  split at h
  · cases h
  · split at h
    · cases h
    · cases h
    · obtain ⟨kept, -, heq⟩ := Option.map_eq_some_iff.mp h
      cases heq
    · dsimp only at h
      split at h
      · split at h
        · cases h
        · rename_i hok
          obtain ⟨kept, -, heq⟩ := Option.map_eq_some_iff.mp h
          cases heq
          simp only [Bool.or_eq_true, not_or, Bool.not_eq_true', Bool.not_eq_false] at hok
          exact hok.2
      · split at h <;> cases h

theorem colons_of_step {s t : AuthorityScan} (h : s.step c = some t) (hat : c ≠ '@') (hopen : c ≠ '[')
    (hclosed : s.opened = false) : t.opened = false ∧ t.colons = s.colons + [c].count ':' := by
  unfold AuthorityScan.step at h
  rw [if_neg hopen, if_neg hat] at h
  split at h
  · rename_i hcolon
    split at h
    · cases h
    · cases h
      exact ⟨hclosed, by rw [hcolon, List.count_singleton_self]⟩
  · rename_i hcolon
    have hcount : [c].count ':' = 0 := List.count_eq_zero.mpr (by simpa using Ne.symm hcolon)
    rw [hcount, Nat.add_zero]
    -- A closing bracket has an opening one before it, and no other character counts.
    split at h
    · rw [hclosed] at h
      cases h
    · split at h
      · cases h
        exact ⟨hclosed, rfl⟩
      · split at h
        · cases h
          exact ⟨hclosed, rfl⟩
        · cases h

theorem colons_of_scan {s t : AuthorityScan} (h : cs.foldlM AuthorityScan.step s = some t) (hat : '@' ∉ cs)
    (hopen : '[' ∉ cs) (hclosed : s.opened = false) : t.colons = s.colons + cs.count ':' := by
  induction cs generalizing s with
  | nil =>
    cases h
    rfl
  | cons c cs ih =>
    rw [List.mem_cons, not_or] at hat hopen
    rw [List.foldlM_cons] at h
    obtain ⟨next, hstep, hrest⟩ := Option.bind_eq_some_iff.mp h
    obtain ⟨hstill, hnext⟩ := colons_of_step hstep (Ne.symm hat.1) (Ne.symm hopen.1) hclosed
    rw [ih hrest hat.2 hopen.2 hstill, hnext, Nat.add_assoc, ← List.count_append]
    rfl

theorem count_colon_le_one (h : isAuthority cs = true) (hat : '@' ∉ cs) (hopen : '[' ∉ cs) : cs.count ':' ≤ 1 := by
  unfold isAuthority at h
  split at h
  · rename_i s hscan
    have hcolons := colons_of_scan hscan hat hopen rfl
    simp only [AuthorityScan.ok, Bool.and_eq_true, decide_eq_true_eq] at h
    rw [← Nat.zero_add (cs.count ':'), ← show AuthorityScan.start.colons = 0 from rfl, ← hcolons]
    exact h.1.1.2
  · cases h

end RequestUri
end CredentialGateway.Http
