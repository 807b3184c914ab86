import CredentialGateway.Proofs.Unicode.LowerCase

/-! Lower-casing does not tell the two cases of an ASCII letter apart, makes no colons, and looks back no further than to
the last character that counts. -/

namespace CredentialGateway.Unicode

variable {c d : Char} {cs before before' : List Char}

theorem apply_toLower {α : Type} (f : Char → α)
    (h : ∀ n < 0x5b, 0x41 ≤ n → f (Char.ofNat n).toLower = f (Char.ofNat n)) (c : Char) : f c.toLower = f c := by
  by_cases hcapital : c.val ≥ 'A'.val ∧ c.val ≤ 'Z'.val
  · have hfirst : 0x41 ≤ c.toNat := UInt32.le_iff_toNat_le.mp hcapital.1
    have hlast : c.toNat < 0x5b := Nat.lt_succ_of_le (UInt32.le_iff_toNat_le.mp hcapital.2)
    have hc := h c.toNat hlast hfirst
    rwa [Char.ofNat_toNat] at hc
  · have hsame : c.toLower = c := dif_neg hcapital
    rw [hsame]

theorem lowerChar_toLower (c : Char) : lowerChar c.toLower = lowerChar c :=
  apply_toLower lowerChar (by decide) c

theorem isCased_toLower (c : Char) : isCased c.toLower = isCased c := apply_toLower isCased (by decide +kernel) c

theorem isCaseIgnorable_letter {n : Nat} (h : 0x41 ≤ n ∧ n ≤ 0x5a ∨ 0x61 ≤ n ∧ n ≤ 0x7a) (hc : c.toNat = n) :
    isCaseIgnorable c = false := by
  have hranges : caseIgnorableRanges.all (fun r =>
      Nat.blt r.2 0x41 || Nat.blt 0x5a r.1 && Nat.blt r.2 0x61 || Nat.blt 0x7a r.1) = true := by decide +kernel
  rw [isCaseIgnorable, inRanges, List.any_eq_false]
  intro r hr
  have hr := List.all_eq_true.mp hranges r hr
  simp only [Bool.or_eq_true, Bool.and_eq_true, Nat.blt_eq] at hr
  simp only [Bool.and_eq_true, decide_eq_true_eq, hc]
  omega

theorem isCaseIgnorable_toLower (c : Char) : isCaseIgnorable c.toLower = isCaseIgnorable c := by
  have hsmall : ∀ n < 0x5b, 0x41 ≤ n → (Char.ofNat n).toLower.toNat = n + 0x20 := by decide
  have hcapital : ∀ n < 0x5b, 0x41 ≤ n → (Char.ofNat n).toNat = n := by decide
  apply apply_toLower isCaseIgnorable
  intro n hlast hfirst
  rw [isCaseIgnorable_letter (.inr (by omega)) (hsmall n hlast hfirst),
    isCaseIgnorable_letter (.inl (by omega)) (hcapital n hlast hfirst)]

theorem isBlank_toLower (c : Char) : isBlank c.toLower = isBlank c := apply_toLower isBlank (by decide) c

theorem meetsCased_cons (c : Char) (cs : List Char) :
    meetsCased (c :: cs) = if isCaseIgnorable c then meetsCased cs else isCased c := by
  unfold meetsCased
  by_cases hc : isCaseIgnorable c = true
  · rw [List.dropWhile_cons_of_pos hc, if_pos hc]
  · rw [List.dropWhile_cons_of_neg hc, if_neg hc]

theorem meetsCased_map_toLower (cs : List Char) : meetsCased (cs.map Char.toLower) = meetsCased cs := by
  induction cs with
  | nil => rfl
  | cons c cs ih => rw [List.map_cons, meetsCased_cons, meetsCased_cons, isCaseIgnorable_toLower, isCased_toLower, ih]

theorem lowerAfter_map_toLower (before cs : List Char) :
    lowerAfter (before.map Char.toLower) (cs.map Char.toLower) = lowerAfter before cs := by
  induction cs generalizing before with
  | nil => rfl
  | cons c cs ih =>
    have hsigma : decide (c.toLower.toNat = 0x3a3) = decide (c.toNat = 0x3a3) :=
      apply_toLower (fun c => decide (c.toNat = 0x3a3)) (by decide) c
    have hrest := ih (c :: before)
    rw [List.map_cons] at hrest ⊢
    rw [lowerAfter, lowerAfter, hrest, lowerChar_toLower, meetsCased_map_toLower, meetsCased_map_toLower]
    simp only [decide_eq_decide.mp hsigma]

theorem lower_map_toLower (cs : List Char) : lower (cs.map Char.toLower) = lower cs := lowerAfter_map_toLower [] cs

theorem lowerAfter_congr (h : meetsCased before = meetsCased before') : lowerAfter before cs = lowerAfter before' cs := by
  induction cs generalizing before before' with
  | nil => rfl
  | cons c cs ih =>
    have hnext : meetsCased (c :: before) = meetsCased (c :: before') := by
      rw [meetsCased_cons, meetsCased_cons, h]
    rw [lowerAfter, lowerAfter, h, ih hnext]

theorem lower_append {front : List Char} (hfront : ∀ c ∈ front, isSettled c = true)
    (hshield : meetsCased front.reverse = false) (cs : List Char) : lower (front ++ cs) = front ++ lower cs := by
  have hsplit (before front : List Char) (hfront : ∀ c ∈ front, isSettled c = true) :
      lowerAfter before (front ++ cs) = front ++ lowerAfter (front.reverse ++ before) cs := by
    induction front generalizing before with
    | nil => rfl
    | cons c front ih =>
      obtain ⟨hc, hfront⟩ := List.forall_mem_cons.mp hfront
      simp only [isSettled, Bool.and_eq_true, decide_eq_true_eq, beq_iff_eq] at hc
      rw [List.cons_append, lowerAfter, if_neg hc.1, hc.2, ih _ hfront, List.reverse_cons, List.append_assoc]
      rfl
  have hnothing : meetsCased (front.reverse ++ []) = meetsCased [] := by
    rw [List.append_nil, hshield]
    rfl
  rw [lower, hsplit [] front hfront, lowerAfter_congr hnothing]
  rfl

theorem colon_of_mem_lowerChar (h : ':' ∈ lowerChar c) : c = ':' := by
  have hascii : ∀ n < 0x80, ':' ∈ lowerChar (Char.ofNat n) → Char.ofNat n = ':' := by decide
  have hrows : lowerRows.all (fun row => Nat.blt ':'.toNat row.2.2.2) = true := by decide +kernel
  have hlater : ∀ n, ':'.toNat < n → ':' ≠ Char.ofNat n := by
    intro n hn heq
    by_cases hvalid : n.isValidChar
    · have hcode := toNat_ofNat_of_isValidChar hvalid
      rw [← heq] at hcode
      exact absurd hcode (Nat.ne_of_lt hn)
    · have hnull : Char.ofNat n = '\x00' := dif_neg hvalid
      rw [hnull] at heq
      exact absurd heq (by decide)
  by_cases hc : c.toNat < 0x80
  · have hcolon := hascii c.toNat hc
    rw [Char.ofNat_toNat] at hcolon
    exact hcolon h
  · rw [lowerChar, if_neg hc] at h
    split at h
    · simp at h
    · split at h
      · rename_i row hrow
        have himage := Nat.blt_eq.mp (List.all_eq_true.mp hrows _ (List.mem_of_find?_eq_some hrow))
        exact absurd (List.mem_singleton.mp h) (hlater _ (Nat.lt_add_right _ himage))
      · exact (List.mem_singleton.mp h).symm

theorem colon_of_mem_lower (h : ':' ∈ lower cs) : ':' ∈ cs := by
  have hafter (before cs : List Char) (h : ':' ∈ lowerAfter before cs) : ':' ∈ cs := by
    induction cs generalizing before with
    | nil => cases h
    | cons c cs ih =>
      rw [lowerAfter, List.mem_append] at h
      rcases h with h | h
      · split at h
        · have hends : ∀ final : Bool, ':' ≠ Char.ofNat (if final then 0x3c2 else 0x3c3) := by decide
          exact absurd (List.mem_singleton.mp h) (hends _)
        · rw [colon_of_mem_lowerChar h]
          exact List.mem_cons_self
      · exact List.mem_cons_of_mem c (ih _ h)
  exact hafter [] cs h

end CredentialGateway.Unicode
