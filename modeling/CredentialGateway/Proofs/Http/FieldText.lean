import CredentialGateway.Gateway.Session
import CredentialGateway.Proofs.Unicode.Utf8

/-! Which texts form header values: those without control characters, of which only the tab is let through. Base64 has
none, so the credentials of the Basic mechanism always form a value. -/

namespace CredentialGateway

namespace Http

def IsControl (c : Char) : Prop := c.toNat < 32 ∧ c ≠ '\t' ∨ c.toNat = 127

instance : DecidablePred IsControl := fun _ => inferInstanceAs (Decidable (_ ∨ _))

variable {c : Char} {cs : List Char} {s : String}

theorem free_of_all (h : cs.all (fun c => decide (¬IsControl c)) = true) : ∀ c ∈ cs, ¬IsControl c := fun c hc =>
  of_decide_eq_true (List.all_eq_true.mp h c hc)

theorem isFieldByte_of_high {b : UInt8} (hb : 0x80 ≤ b.toNat) : isFieldByte b = true := by
  have hbyte : ∀ n < 0x100, 0x80 ≤ n → isFieldByte (UInt8.ofNat n) = true := by decide +kernel
  have hfield := hbyte b.toNat b.toNat_lt hb
  rwa [UInt8.ofNat_toNat] at hfield

theorem all_isFieldByte_iff : (String.utf8EncodeChar c).all isFieldByte = true ↔ ¬IsControl c := by
  by_cases hc : c.toNat < 0x80
  · have hascii : ∀ n < 0x80, (String.utf8EncodeChar (Char.ofNat n)).all isFieldByte = true ↔ ¬IsControl (Char.ofNat n) := by
      decide +kernel
    have hchar := hascii c.toNat hc
    rwa [Char.ofNat_toNat] at hchar
  · have hfree : ¬IsControl c := by
      unfold IsControl
      omega
    refine iff_of_true (List.all_eq_true.mpr fun b hb => ?_) hfree
    exact isFieldByte_of_high (Unicode.high_of_mem_utf8EncodeChar (Nat.le_of_not_lt hc) hb)

theorem all_field_iff : (Bytes.ofText s).all isFieldByte = true ↔ ∀ c ∈ s.toList, ¬IsControl c := by
  rw [Bytes.ofText, Bytes.ofChars, List.all_flatMap, List.all_eq_true]
  exact forall₂_congr fun c _ => all_isFieldByte_iff

theorem ofText?_of_free (h : ∀ c ∈ s.toList, ¬IsControl c) : HeaderValue.ofText? s = some ⟨Bytes.ofText s, false⟩ :=
  if_pos (all_field_iff.mpr h)

theorem ofText?_eq_none_iff : HeaderValue.ofText? s = none ↔ ∃ c ∈ s.toList, IsControl c := by
  constructor
  · intro hnone
    refine Classical.byContradiction fun hfree => ?_
    have hsome := ofText?_of_free fun c hc hcontrol => hfree ⟨c, hc, hcontrol⟩
    rw [hnone] at hsome
    cases hsome
  · rintro ⟨c, hc, hcontrol⟩
    exact if_neg fun hall => all_field_iff.mp hall c hc hcontrol

end Http

open Http

namespace Bytes

theorem base64Digit_free (n : Nat) : ¬IsControl (base64Digit n) := by
  by_cases hn : n < 64
  · have hdigit : ∀ n < 64, ¬IsControl (base64Digit n) := by decide +kernel
    exact hdigit n hn
  · have hslash : base64Digit n = '/' := by
      unfold base64Digit
      rw [if_neg (by omega), if_neg (by omega), if_neg (by omega), if_neg (by omega)]
    rw [hslash]
    decide

theorem base64_free (b : Bytes) : ∀ c ∈ base64 b, ¬IsControl c := by
  have hpad : ¬IsControl '=' := by decide
  fun_induction base64 b with
  | case1 x y z rest n ih =>
    simp only [List.forall_mem_cons]
    exact ⟨base64Digit_free _, base64Digit_free _, base64Digit_free _, base64Digit_free _, ih⟩
  | case2 x y n =>
    simp only [List.forall_mem_cons]
    exact ⟨base64Digit_free _, base64Digit_free _, base64Digit_free _, hpad, List.forall_mem_nil _⟩
  | case3 x n =>
    simp only [List.forall_mem_cons]
    exact ⟨base64Digit_free _, base64Digit_free _, hpad, hpad, List.forall_mem_nil _⟩
  | case4 => exact List.forall_mem_nil _

end Bytes

namespace Session

theorem basicValue?_eq (username password : String) :
    basicValue? username password = some (Call.basicValue username password) := by
  let encoded := Bytes.base64 (Bytes.ofText (username ++ ":" ++ password))
  have htext : ("Basic " ++ String.ofList encoded).toList = "Basic ".toList ++ encoded := by
    rw [String.toList_append, String.toList_ofList (l := encoded)]
  have hscheme : ∀ c ∈ "Basic ".toList, ¬IsControl c := free_of_all (by decide)
  have hfree : ∀ c ∈ ("Basic " ++ String.ofList encoded).toList, ¬IsControl c := by
    rw [htext]
    intro c hc
    rcases List.mem_append.mp hc with hword | hencoded
    · exact hscheme c hword
    · exact Bytes.base64_free _ c hencoded
  have hvalue := congrArg (Option.map HeaderValue.hidden) (ofText?_of_free hfree)
  rwa [Option.map_some, Bytes.ofText, htext] at hvalue

theorem bearerValue?_eq_none_iff {token : String} : bearerValue? token = none ↔ ∃ c ∈ token.toList, IsControl c := by
  have hscheme : ∀ c ∈ "Bearer ".toList, ¬IsControl c := free_of_all (by decide)
  rw [bearerValue?, Option.map_eq_none_iff, ofText?_eq_none_iff, String.toList_append]
  constructor
  · rintro ⟨c, hc, hcontrol⟩
    rcases List.mem_append.mp hc with hfirst | htoken
    · exact absurd hcontrol (hscheme c hfirst)
    · exact ⟨c, htoken, hcontrol⟩
  · rintro ⟨c, hc, hcontrol⟩
    exact ⟨c, List.mem_append_right _ hc, hcontrol⟩

@[simp]
theorem setMechanism_basic (r : Reach) (username password : String) (h : Headers) (s : Session) :
    setMechanism r (.basic username password) h s =
      ((h.set .authorization (Call.basicValue username password), .ok ()), s) := by
  rw [setMechanism, basicValue?_eq]

end Session
end CredentialGateway
