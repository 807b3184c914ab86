import CredentialGateway.Http.Body

/-! What reading a body gives: all its bytes, unless they are too many or the body breaks off. -/

namespace CredentialGateway.Http.Body

def bytes : Body → Bytes
  | ended _ | broken _ _ => []
  | piece _ b rest => b ++ rest.bytes

def breach? : Body → Option String
  | ended _ => none
  | broken _ reason => some reason
  | piece _ _ rest => rest.breach?

variable {b : Body} {limit : Nat} {x : Bytes}

theorem read_fst (b : Body) (limit : Nat) :
    (b.read limit).1 =
      if limit < b.bytes.length then .error .tooLong
      else match b.breach? with
        | some reason => .error (.broken reason)
        | none => .ok b.bytes := by
  induction b generalizing limit with
  | ended wait | broken wait reason => rfl
  | piece wait y rest ih =>
    rw [read, bytes, breach?, List.length_append]
    by_cases hlong : limit < y.length
    · have hall : limit < y.length + rest.bytes.length := by omega
      rw [if_pos hlong, if_pos hall]
    · rw [if_neg hlong]
      dsimp only
      rw [ih]
      -- What is left of the limit is exceeded by the rest if the limit is exceeded by all.
      by_cases hall : limit < y.length + rest.bytes.length
      · have hrest : limit - y.length < rest.bytes.length := by omega
        rw [if_pos hall, if_pos hrest]
        rfl
      · have hrest : ¬ limit - y.length < rest.bytes.length := by omega
        rw [if_neg hall, if_neg hrest]
        cases rest.breach? <;> rfl

theorem read_eq_ok_iff : (b.read limit).1 = .ok x ↔ b.bytes.length ≤ limit ∧ b.breach? = none ∧ x = b.bytes := by
  rw [read_fst]
  by_cases hlong : limit < b.bytes.length
  · rw [if_pos hlong]
    exact ⟨fun h => (nomatch h), fun h => absurd hlong (Nat.not_lt.mpr h.1)⟩
  · rw [if_neg hlong]
    cases hbreach : b.breach? with
    | some reason => exact ⟨fun h => (nomatch h), fun h => (nomatch h.2.1)⟩
    | none => exact ⟨fun h => ⟨Nat.not_lt.mp hlong, rfl, (Except.ok.inj h).symm⟩, fun h => congrArg _ h.2.2.symm⟩

end CredentialGateway.Http.Body
