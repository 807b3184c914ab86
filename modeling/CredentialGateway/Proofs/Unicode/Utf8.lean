/-! The bytes of characters in UTF-8: those of ASCII stand for themselves and occur in no other character. -/

namespace CredentialGateway.Unicode

variable {c : Char} {b : UInt8}

theorem high_of_mem_utf8EncodeChar (hc : 0x80 ≤ c.toNat) (hb : b ∈ String.utf8EncodeChar c) : 0x80 ≤ b.toNat := by
  have hhigh (n : Nat) (hn : 0x80 ≤ n ∧ n < 0x100) : 0x80 ≤ (UInt8.ofNat n).toNat := by
    rw [UInt8.toNat_ofNat']
    omega
  have hlong : ¬c.val.toNat ≤ 0x7f := by
    change ¬c.toNat ≤ 0x7f
    omega
  rw [String.utf8EncodeChar, if_neg hlong] at hb
  split at hb
  · simp only [List.mem_cons, List.not_mem_nil, or_false] at hb
    rcases hb with rfl | rfl <;> exact hhigh _ (by omega)
  · split at hb
    · simp only [List.mem_cons, List.not_mem_nil, or_false] at hb
      rcases hb with rfl | rfl | rfl <;> exact hhigh _ (by omega)
    · simp only [List.mem_cons, List.not_mem_nil, or_false] at hb
      rcases hb with rfl | rfl | rfl | rfl <;> exact hhigh _ (by omega)

theorem toNat_of_mem_utf8EncodeChar (hb : b ∈ String.utf8EncodeChar c) (hlow : b.toNat < 0x80) : c.toNat = b.toNat := by
  by_cases hc : c.toNat < 0x80
  · have hshort : c.val.toNat ≤ 0x7f := by
      change c.toNat ≤ 0x7f
      omega
    rw [String.utf8EncodeChar, if_pos hshort] at hb
    obtain rfl := List.mem_singleton.mp hb
    change c.toNat = (UInt8.ofNat c.toNat).toNat
    rw [UInt8.toNat_ofNat']
    omega
  · have hhigh := high_of_mem_utf8EncodeChar (Nat.le_of_not_lt hc) hb
    omega

end CredentialGateway.Unicode
