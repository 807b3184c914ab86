import CredentialGateway.Proofs.Unicode.Utf8
import CredentialGateway.Url.Path

/-! What percent-encoding a segment leaves of it: nothing that has to be encoded again, and no dot segment that was not
there before. -/

namespace CredentialGateway.Url

variable {set : Char → Bool} {cs : List Char} {c : Char} {b : UInt8}

theorem percentEncode_eq_self (h : ∀ c ∈ cs, set c = false) : percentEncode set cs = cs := by
  induction cs with
  | nil => rfl
  | cons c cs ih =>
    have hc := h c List.mem_cons_self
    have hcs := ih fun d hd => h d (List.mem_cons_of_mem c hd)
    rw [percentEncode, List.flatMap_cons, if_neg (by simp [hc])]
    exact congrArg (c :: ·) hcs

theorem percentEncode_append (set : Char → Bool) (a b : List Char) :
    percentEncode set (a ++ b) = percentEncode set a ++ percentEncode set b := List.flatMap_append

theorem percentEncode_eq_nil : percentEncode set cs = [] ↔ cs = [] := by
  constructor
  · intro h
    rw [percentEncode, List.flatMap_eq_nil_iff] at h
    refine List.eq_nil_iff_forall_not_mem.mpr fun c hc => ?_
    have hnil := h c hc
    split at hnil
    · rw [List.flatMap_eq_nil_iff] at hnil
      obtain ⟨b, rest, hb⟩ := List.exists_cons_of_ne_nil (String.utf8EncodeChar_ne_nil (c := c))
      exact List.cons_ne_nil _ _ (hnil b (hb ▸ List.mem_cons_self))
    · cases hnil
  · rintro rfl
    rfl

theorem percentByte_infix (hc : c ∈ cs) (hset : set c = true) (hb : b ∈ String.utf8EncodeChar c) :
    percentByte b <:+: percentEncode set cs := by
  obtain ⟨before, after, rfl⟩ := List.append_of_mem hc
  obtain ⟨front, back, hbytes⟩ := List.append_of_mem hb
  refine ⟨percentEncode set before ++ front.flatMap percentByte,
    back.flatMap percentByte ++ percentEncode set after, ?_⟩
  simp [percentEncode, hset, hbytes]

theorem upperHex_spec : ∀ n < 16, inPathSet (upperHex n) = false ∧ upperHex n ≠ '/' ∧ upperHex n ≠ '\\' ∧
    ((upperHex n).toLower = '2' → n = 2) ∧ ((upperHex n).toLower = 'e' → n = 14) := by
  decide

theorem plain_of_mem_percentByte (h : c ∈ percentByte b) : inPathSet c = false ∧ c ≠ '/' ∧ c ≠ '\\' := by
  simp only [percentByte, List.mem_cons, List.not_mem_nil, or_false] at h
  have hb := b.toNat_lt
  rcases h with rfl | rfl | rfl
  · decide
  · obtain ⟨hset, hslash, hback, -⟩ := upperHex_spec (b.toNat / 16) (by omega)
    exact ⟨hset, hslash, hback⟩
  · obtain ⟨hset, hslash, hback, -⟩ := upperHex_spec (b.toNat % 16) (by omega)
    exact ⟨hset, hslash, hback⟩

theorem clean_of_mem_percentEncode (hpercent : set '%' = false) (hdigits : ∀ n < 16, set (upperHex n) = false)
    (h : c ∈ percentEncode set cs) : set c = false := by
  obtain ⟨d, -, hc⟩ := List.mem_flatMap.mp h
  split at hc
  · obtain ⟨b, -, hb⟩ := List.mem_flatMap.mp hc
    have hlt := b.toNat_lt
    simp only [percentByte, List.mem_cons, List.not_mem_nil, or_false] at hb
    rcases hb with rfl | rfl | rfl
    · exact hpercent
    · exact hdigits _ (by omega)
    · exact hdigits _ (by omega)
  · rename_i hset
    obtain rfl := List.mem_singleton.mp hc
    exact Bool.eq_false_iff.mpr hset

theorem plain_of_mem_percentEncode (h : c ∈ percentEncode inPathSet cs)
    (hcs : ∀ d ∈ cs, d ≠ '/' ∧ d ≠ '\\') : inPathSet c = false ∧ c ≠ '/' ∧ c ≠ '\\' := by
  obtain ⟨d, hd, hc⟩ := List.mem_flatMap.mp h
  split at hc
  · obtain ⟨b, -, hb⟩ := List.mem_flatMap.mp hc
    exact plain_of_mem_percentByte hb
  · rename_i hset
    obtain rfl := List.mem_singleton.mp hc
    exact ⟨by simpa using hset, hcs c hd⟩

def OnlyDots (text : List Char) : Prop :=
  ∀ i < text.length, text[i]? = some '%' → text[i + 1]? = some '2' ∧ text[i + 2]? = some 'e'

instance (text : List Char) : Decidable (OnlyDots text) := Nat.decidableBallLT _ _

theorem percentEncode_of_onlyDots (h : OnlyDots ((percentEncode inPathSet cs).map Char.toLower)) :
    percentEncode inPathSet cs = cs := by
  refine percentEncode_eq_self fun c hc => Bool.eq_false_iff.mpr fun hset => ?_
  -- The first byte of an encoded character shows a percent sign, so that it has the code of the dot.
  obtain ⟨b, rest, hb⟩ := List.exists_cons_of_ne_nil (String.utf8EncodeChar_ne_nil (c := c))
  have hmem : b ∈ String.utf8EncodeChar c := hb ▸ List.mem_cons_self
  obtain ⟨before, after, hinfix⟩ := percentByte_infix hc hset hmem
  rw [← hinfix] at h
  have hdot := h before.length (by simp [percentByte])
  simp only [percentByte, List.map_append, List.map_cons, List.map_nil, List.append_assoc] at hdot
  have hlength : (before.map Char.toLower).length = before.length := List.length_map ..
  simp only [← hlength, List.getElem?_append_right (Nat.le_refl _), List.getElem?_append_right (Nat.le_add_right _ _),
    Nat.sub_self, Nat.add_sub_cancel_left] at hdot
  obtain ⟨htwo, he⟩ := hdot rfl
  have hlt := b.toNat_lt
  have hhigh := (upperHex_spec (b.toNat / 16) (by omega)).2.2.2.1 (Option.some.inj htwo)
  have hlow := (upperHex_spec (b.toNat % 16) (by omega)).2.2.2.2 (Option.some.inj he)
  have hcode : b = 46 := UInt8.toNat_inj.mp (by change b.toNat = 46; omega)
  rw [hcode] at hmem
  -- Of all characters, only the dot has its byte.
  have hchar : c.toNat = '.'.toNat := Unicode.toNat_of_mem_utf8EncodeChar hmem (by decide)
  rw [Char.toNat_inj.mp hchar] at hset
  exact absurd hset (by decide)

theorem percentEncode_of_mem_dots {dots : List String} (hdots : ∀ d ∈ dots, OnlyDots d.toList)
    (h : dots.contains (String.ofList ((percentEncode inPathSet cs).map Char.toLower)) = true) :
    percentEncode inPathSet cs = cs := by
  have honly := hdots _ (List.contains_iff_mem.mp h)
  rw [String.toList_ofList] at honly
  exact percentEncode_of_onlyDots honly

theorem isSingleDot_percentEncode (h : isSingleDot cs = false) : isSingleDot (percentEncode inPathSet cs) = false := by
  refine Bool.eq_false_iff.mpr fun hdot => ?_
  have heq := percentEncode_of_mem_dots (by decide) hdot
  rw [heq, h] at hdot
  cases hdot

theorem isDoubleDot_percentEncode (h : isDoubleDot cs = false) : isDoubleDot (percentEncode inPathSet cs) = false := by
  refine Bool.eq_false_iff.mpr fun hdot => ?_
  have heq := percentEncode_of_mem_dots (by decide) hdot
  rw [heq, h] at hdot
  cases hdot

end CredentialGateway.Url
