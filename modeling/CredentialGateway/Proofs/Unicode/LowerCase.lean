import CredentialGateway.Unicode.Blank
import CredentialGateway.Unicode.LowerCase

/-! Lower-casing twice is lower-casing once, and it makes no blanks, dots or brackets. -/

namespace CredentialGateway.Unicode

/-- A character that lower-casing leaves as it is, wherever it stands. -/
def isSettled (c : Char) : Bool := c.toNat ≠ 0x3a3 && lowerChar c == [c]

def isImage (c : Char) : Bool := isSettled c && !isBlank c && !(c == '.' || c == '[' || c == ']')

def avoids (row : Nat × Nat × Nat × Nat) (range : Nat × Nat) : Bool :=
  Nat.blt (row.2.2.2 + (row.2.1 - row.1)) range.1 || Nat.blt range.2 row.2.2.2

/-- The images of one row are no capitals of another: they lie elsewhere, or each second code point is a capital and the
images stand between. -/
def misses (row other : Nat × Nat × Nat × Nat) : Bool :=
  avoids row (other.1, other.2.1) || ((row.2.2.2 + other.1) % 2 == 1 && (row.2.2.1 == 2 || row.1 == row.2.1) &&
    (other.2.2.1 == 2 || other.1 == other.2.1))

def isClear (row : Nat × Nat × Nat × Nat) : Bool :=
  Nat.ble 0x61 row.2.2.2 && Nat.ble (row.2.2.2 + (row.2.1 - row.1)) 0x7a ||
    Nat.ble 0x80 row.2.2.2 && ((0x130, 0x130) :: (0x3a3, 0x3a3) :: blankRanges).all (avoids row) &&
      lowerRows.all (misses row)

theorem lowerRows_clear : lowerRows.all isClear = true := by
  decide +kernel

variable {row : Nat × Nat × Nat × Nat} {k n : Nat} {c d : Char} {cs before : List Char}

theorem not_mem_of_avoids {range : Nat × Nat} (h : avoids row range = true) (hk : k ≤ row.2.1 - row.1) :
    ¬ (range.1 ≤ row.2.2.2 + k ∧ row.2.2.2 + k ≤ range.2) := by
  simp only [avoids, Bool.or_eq_true, Nat.blt_eq] at h
  omega

theorem not_hit_of_misses {other : Nat × Nat × Nat × Nat} (h : misses row other = true) (hk : k ≤ row.2.1 - row.1)
    (hstep : k % row.2.2.1 = 0) :
    ¬ (other.1 ≤ row.2.2.2 + k ∧ row.2.2.2 + k ≤ other.2.1 ∧ (row.2.2.2 + k - other.1) % other.2.2.1 = 0) := by
  simp only [misses, Bool.or_eq_true, Bool.and_eq_true, beq_iff_eq] at h
  rintro ⟨hfirst, hlast, hother⟩
  rcases h with h | ⟨⟨hodd, hrow⟩, hrow'⟩
  · exact not_mem_of_avoids h hk ⟨hfirst, hlast⟩
  · have heven : k % 2 = 0 := by
      rcases hrow with hrow | hrow
      · rwa [hrow] at hstep
      · omega
    have heven' : (row.2.2.2 + k - other.1) % 2 = 0 := by
      rcases hrow' with hrow' | hrow'
      · rwa [hrow'] at hother
      · omega
    omega

theorem isImage_letter : ∀ n < 0x7b, 0x61 ≤ n → isImage (Char.ofNat n) = true := by
  decide

theorem lowerChar_eq_self (hascii : 0x80 ≤ c.toNat) (hdotted : c.toNat ≠ 0x130)
    (h : ∀ row ∈ lowerRows,
      ¬ (row.1 ≤ c.toNat ∧ c.toNat ≤ row.2.1 ∧ (c.toNat - row.1) % row.2.2.1 = 0)) : lowerChar c = [c] := by
  rw [lowerChar, if_neg (Nat.not_lt.mpr hascii), if_neg hdotted]
  split
  · rename_i row hrow
    have hhit := List.find?_some hrow
    simp only [Bool.and_eq_true, decide_eq_true_eq, beq_iff_eq] at hhit
    exact absurd ⟨hhit.1.1, hhit.1.2, hhit.2⟩ (h _ (List.mem_of_find?_eq_some hrow))
  · rfl

theorem toNat_ofNat_of_isValidChar (h : n.isValidChar) : (Char.ofNat n).toNat = n := by
  rw [Char.ofNat, dif_pos h]
  rfl

theorem isImage_ofNat (h : isClear row = true) (hk : k ≤ row.2.1 - row.1) (hstep : k % row.2.2.1 = 0) :
    isImage (Char.ofNat (row.2.2.2 + k)) = true := by
  simp only [isClear, Bool.or_eq_true, Bool.and_eq_true, Nat.ble_eq, List.all_eq_true] at h
  rcases h with ⟨hfirst, hlast⟩ | ⟨⟨hascii, hranges⟩, hrows⟩
  · exact isImage_letter _ (by omega) (by omega)
  · by_cases hvalid : (row.2.2.2 + k).isValidChar
    · have hcode := toNat_ofNat_of_isValidChar hvalid
      have hrange {range : Nat × Nat} (hmem : range ∈ (0x130, 0x130) :: (0x3a3, 0x3a3) :: blankRanges) :=
        not_mem_of_avoids (hranges range hmem) hk
      have hdotted : row.2.2.2 + k ≠ 0x130 := fun heq =>
        hrange List.mem_cons_self ⟨Nat.le_of_eq heq.symm, Nat.le_of_eq heq⟩
      have hsigma : row.2.2.2 + k ≠ 0x3a3 := fun heq =>
        hrange (List.mem_cons_of_mem _ List.mem_cons_self) ⟨Nat.le_of_eq heq.symm, Nat.le_of_eq heq⟩
      have hself : lowerChar (Char.ofNat (row.2.2.2 + k)) = [Char.ofNat (row.2.2.2 + k)] := by
        refine lowerChar_eq_self (by omega) (by omega) fun other hother => ?_
        rw [hcode]
        exact not_hit_of_misses (hrows other hother) hk hstep
      have hblank : isBlank (Char.ofNat (row.2.2.2 + k)) = false := by
        rw [isBlank, inRanges, List.any_eq_false]
        intro range hmem
        rw [hcode]
        simpa using hrange (List.mem_cons_of_mem _ (List.mem_cons_of_mem _ hmem))
      have hmark {mark : Char} (hmark : mark.toNat < 0x80) : Char.ofNat (row.2.2.2 + k) ≠ mark := by
        rintro rfl
        omega
      simp [isImage, isSettled, hself, hblank, hcode, hsigma, hmark]
    · rw [Char.ofNat, dif_neg hvalid]
      decide

theorem isSettled_of_isImage (h : isImage c = true) : isSettled c = true := by
  simp only [isImage, Bool.and_eq_true] at h
  exact h.1.1

theorem lowerChar_ascii : ∀ n < 0x80,
    (lowerChar (Char.ofNat n)).all (fun d => isSettled d && (d == Char.ofNat n || isImage d)) = true := by
  decide

theorem mem_lowerChar (hsigma : c.toNat ≠ 0x3a3) (hd : d ∈ lowerChar c) :
    isSettled d = true ∧ (d = c ∨ isImage d = true) := by
  by_cases hascii : c.toNat < 0x80
  · have h := List.all_eq_true.mp (lowerChar_ascii c.toNat hascii)
    rw [Char.ofNat_toNat] at h
    simpa using h d hd
  by_cases hdotted : c.toNat = 0x130
  · have hpair : ['i', Char.ofNat 0x307].all isImage = true := by decide +kernel
    rw [lowerChar, if_neg hascii, if_pos hdotted] at hd
    have himage := List.all_eq_true.mp hpair d hd
    exact ⟨isSettled_of_isImage himage, .inr himage⟩
  rw [lowerChar, if_neg hascii, if_neg hdotted] at hd
  split at hd
  · rename_i row hrow
    have hhit := List.find?_some hrow
    simp only [Bool.and_eq_true, decide_eq_true_eq, beq_iff_eq] at hhit
    obtain ⟨⟨hfirst, hlast⟩, hstep⟩ := hhit
    have himage := isImage_ofNat (List.all_eq_true.mp lowerRows_clear _ (List.mem_of_find?_eq_some hrow))
      (Nat.sub_le_sub_right hlast _) hstep
    rw [List.mem_singleton] at hd
    subst hd
    exact ⟨isSettled_of_isImage himage, .inr himage⟩
  · rename_i hnone
    rw [List.mem_singleton] at hd
    subst hd
    have hself : lowerChar d = [d] := by
      rw [lowerChar, if_neg hascii, if_neg hdotted, hnone]
    exact ⟨by simp [isSettled, hsigma, hself], .inl rfl⟩

theorem lowerChar_ne_nil (c : Char) : lowerChar c ≠ [] := by
  unfold lowerChar
  repeat' split
  all_goals simp

theorem lowerAfter_cons (before : List Char) (c : Char) (cs : List Char) :
    ∃ images, lowerAfter before (c :: cs) = images ++ lowerAfter (c :: before) cs ∧ images ≠ [] ∧
      ∀ d ∈ images, isSettled d = true ∧ (d = c ∨ isImage d = true) := by
  by_cases hsigma : c.toNat = 0x3a3
  · refine ⟨_, rfl, ?_, ?_⟩
    · simp [hsigma]
    · have hends : ∀ end? : Bool, isImage (Char.ofNat (if end? then 0x3c2 else 0x3c3)) = true := by decide +kernel
      rw [if_pos hsigma]
      rintro d hd
      rw [List.mem_singleton.mp hd]
      exact ⟨isSettled_of_isImage (hends _), .inr (hends _)⟩
  · refine ⟨lowerChar c, ?_, lowerChar_ne_nil c, fun d hd => mem_lowerChar hsigma hd⟩
    rw [lowerAfter, if_neg hsigma]

theorem mem_lowerAfter (hd : d ∈ lowerAfter before cs) : isSettled d = true ∧ (d ∈ cs ∨ isImage d = true) := by
  induction cs generalizing before with
  | nil => cases hd
  | cons c cs ih =>
    obtain ⟨images, heq, -, himages⟩ := lowerAfter_cons before c cs
    rw [heq, List.mem_append] at hd
    rcases hd with hd | hd
    · obtain ⟨hsettled, rfl | himage⟩ := himages d hd
      · exact ⟨hsettled, .inl List.mem_cons_self⟩
      · exact ⟨hsettled, .inr himage⟩
    · obtain ⟨hsettled, hmem | himage⟩ := ih hd
      · exact ⟨hsettled, .inl (List.mem_cons_of_mem c hmem)⟩
      · exact ⟨hsettled, .inr himage⟩

theorem lowerAfter_eq_self (h : ∀ c ∈ cs, isSettled c = true) : lowerAfter before cs = cs := by
  induction cs generalizing before with
  | nil => rfl
  | cons c cs ih =>
    obtain ⟨hc, hcs⟩ := List.forall_mem_cons.mp h
    simp only [isSettled, Bool.and_eq_true, decide_eq_true_eq, beq_iff_eq] at hc
    rw [lowerAfter, if_neg hc.1, hc.2, ih hcs]
    rfl

theorem lowerAfter_ascii (h : ∀ c ∈ cs, c.toNat < 0x80) : lowerAfter before cs = cs.map Char.toLower := by
  induction cs generalizing before with
  | nil => rfl
  | cons c cs ih =>
    obtain ⟨hc, hcs⟩ := List.forall_mem_cons.mp h
    rw [lowerAfter, if_neg (by omega), lowerChar, if_pos hc, ih hcs]
    rfl

theorem isSettled_of_mem_lower (h : c ∈ lower cs) : isSettled c = true := (mem_lowerAfter h).1

theorem mem_of_mem_lower (h : c ∈ lower cs) (hother : isImage c = false) : c ∈ cs :=
  (mem_lowerAfter h).2.resolve_right (by simp [hother])

theorem lower_eq_self (h : ∀ c ∈ cs, isSettled c = true) : lower cs = cs := lowerAfter_eq_self h

theorem lower_ascii (h : ∀ c ∈ cs, c.toNat < 0x80) : lower cs = cs.map Char.toLower := lowerAfter_ascii h

theorem exists_lower_cons (c : Char) (cs : List Char) :
    ∃ d rest, lower (c :: cs) = d :: rest ∧ (d = c ∨ isImage d = true) := by
  obtain ⟨images, heq, hne, himages⟩ := lowerAfter_cons [] c cs
  obtain ⟨d, rest, rfl⟩ := List.exists_cons_of_ne_nil hne
  exact ⟨d, _, heq, (himages d List.mem_cons_self).2⟩

theorem lower_eq_nil_iff : lower cs = [] ↔ cs = [] := by
  constructor
  · intro h
    cases cs with
    | nil => rfl
    | cons c cs =>
      obtain ⟨d, rest, heq, -⟩ := exists_lower_cons c cs
      rw [heq] at h
      cases h
  · rintro rfl
    rfl

end CredentialGateway.Unicode
