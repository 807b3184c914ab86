import CredentialGateway.Outbound
import CredentialGateway.Proofs.Http.Header

/-! Which headers of a request are kept from its target: those that are meant for the gateway, the fixed hop-by-hop
headers, and all that a Connection header names. The values of every other name are forwarded as they are. -/

namespace CredentialGateway.Http.Headers

variable (h : Headers) (n m : HeaderName)

def Named (n : HeaderName) : Prop :=
  ∃ v ∈ h.all .connection, ∃ cs, v.chars? = some cs ∧
    ∃ item ∈ cs.splitOn ',', HeaderName.parse? (Unicode.trim item) = some n

/-- The headers of a request that its target does not get. -/
def Withheld (n : HeaderName) : Prop :=
  n = .accessToken ∨ n = .host ∨ n = .contentLength ∨ n ∈ hopByHopNames ∨ h.Named n

theorem mem_connectionNames_iff : n ∈ h.connectionNames ↔ h.Named n := by
  simp only [connectionNames, listedNames, List.mem_flatMap, List.mem_filterMap, Named]
  constructor
  · rintro ⟨cs, ⟨v, hv, hcs⟩, item, hitem, hname⟩
    exact ⟨v, hv, cs, hcs, item, hitem, hname⟩
  · rintro ⟨v, hv, cs, hcs, item, hitem, hname⟩
    exact ⟨cs, ⟨v, hv, hcs⟩, item, hitem, hname⟩

instance : Decidable (h.Named n) := decidable_of_iff _ (h.mem_connectionNames_iff n)

instance : Decidable (h.Withheld n) := inferInstanceAs (Decidable (_ ∨ _))

theorem all_erase : (h.erase n).all m = if m = n then [] else h.all m := by
  rw [erase, all_filter m (fun k => k != n)]
  by_cases hm : m = n <;> simp [hm]

theorem foldl_erase (ns : List HeaderName) : ns.foldl erase h = h.eraseAll ns := by
  induction ns generalizing h with
  | nil => exact congrArg Headers.mk (List.filter_eq_self.mpr fun _ _ => rfl).symm
  | cons n ns ih =>
    rw [List.foldl_cons, ih, eraseAll, eraseAll, erase, List.filter_filter]
    congr 1
    refine List.filter_congr fun e _ => ?_
    rw [List.contains_cons, Bool.not_or, Bool.and_comm]
    rfl

theorem stripHopByHop_eq : h.stripHopByHop = h.eraseAll (h.connectionNames ++ hopByHopNames) := by
  rw [stripHopByHop, ← List.foldl_append, foldl_erase]

theorem all_stripHopByHop :
    h.stripHopByHop.all n = if n ∈ hopByHopNames ∨ h.Named n then [] else h.all n := by
  rw [stripHopByHop_eq, all_eraseAll]
  simp only [List.mem_append, mem_connectionNames_iff, or_comm]

theorem named_congr {h h' : Headers} (hc : h'.all .connection = h.all .connection) (n : HeaderName) :
    h'.Named n ↔ h.Named n := by
  simp only [Named, hc]

theorem all_forwardedHeaders :
    (Outbound.forwardedHeaders h).all n = if h.Withheld n then [] else h.all n := by
  have hnamed : (h.erase .accessToken).Named n ↔ h.Named n :=
    named_congr (by rw [all_erase, if_neg (by decide)]) n
  simp only [Outbound.forwardedHeaders, all_erase, all_stripHopByHop, hnamed]
  by_cases hw : h.Withheld n
  · rw [if_pos hw]
    obtain hn | hn | hn | hn | hn := hw <;> simp [hn]
  · rw [if_neg hw]
    simp only [Withheld, not_or] at hw
    obtain ⟨htoken, hhost, hlength, hhop, hname⟩ := hw
    simp [htoken, hhost, hlength, hhop, hname]

end CredentialGateway.Http.Headers
