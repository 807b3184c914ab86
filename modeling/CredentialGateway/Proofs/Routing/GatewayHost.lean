import CredentialGateway.Proofs.Config.Directory
import CredentialGateway.Proofs.Routing.Naming
import CredentialGateway.Proofs.Unicode.LetterCase

/-! From a service to the host that is made for it and back. The label at the front of the host survives all cuts, and
the tag before the id keeps to itself when the label is lower-cased. -/

namespace CredentialGateway

open Unicode

def IsCaseVariant (a b : String) : Prop := a.toList.map Char.toLower = b.toList.map Char.toLower

instance (a b : String) : Decidable (IsCaseVariant a b) := inferInstanceAs (Decidable (_ = _))

namespace Resolver

/-- What a host can begin with that it gives up as a whole: it is cut only at dots and colons, and opens no bracket. -/
structure IsFront (l : List Char) : Prop where
  nonempty : l ≠ []
  dotless : '.' ∉ l
  colonless : ':' ∉ l
  head : ∀ c ∈ l.head?, c ≠ '[' ∧ isBlank c = false

variable {l x tail rest host : List Char} {env nameSpace id : String}

theorem starts_of_head_not_mem (h : l ++ rest = x ++ tail) (htail : ∀ c ∈ tail.head?, c ∉ l) : l <+: x := by
  rcases List.append_eq_append_iff.mp h with ⟨more, rfl, -⟩ | ⟨lost, rfl, rfl⟩
  · exact List.prefix_append l more
  · cases lost with
    | nil => exact (List.append_nil x).symm ▸ List.prefix_rfl
    | cons c lost => exact absurd (List.mem_append_right x List.mem_cons_self) (htail c rfl)

theorem dropWhile_isBlank (hne : l ≠ []) (hhead : ∀ c ∈ l.head?, isBlank c = false) (rest : List Char) :
    (l ++ rest).dropWhile isBlank = l ++ rest := by
  obtain ⟨c, cs, rfl⟩ := List.exists_cons_of_ne_nil hne
  have hc : isBlank c = false := hhead c rfl
  exact List.dropWhile_cons_of_neg (by simp [hc])

theorem starts_trim (hne : l ≠ []) (hhead : ∀ c ∈ l.head?, isBlank c = false) : l <+: trim (l ++ '.' :: rest) := by
  have hcut : (l ++ ['.']) ++ rest =
      trim (l ++ '.' :: rest) ++ ((l ++ '.' :: rest).reverse.takeWhile isBlank).reverse := by
    rw [trim, trimBy, dropWhile_isBlank hne hhead, ← List.reverse_append, List.takeWhile_append_dropWhile,
      List.reverse_reverse, List.append_assoc]
    rfl
  have hlabel : l <+: l ++ ['.'] := List.prefix_append l ['.']
  rcases List.append_eq_append_iff.mp hcut with ⟨more, htrim, -⟩ | ⟨lost, htrim, hlost⟩
  · rw [htrim]
    exact hlabel.trans (List.prefix_append _ more)
  · rcases List.eq_nil_or_concat lost with rfl | ⟨more, c, hconcat⟩
    · rw [List.append_nil] at htrim
      exact htrim ▸ hlabel
    -- Only blanks are lost at the end, and the dot is none.
    · rw [List.concat_eq_append] at hconcat
      subst hconcat
      have hdot : c = '.' := by
        rw [← List.append_assoc] at htrim
        have hlast := (List.append_inj' htrim rfl).2
        exact (List.singleton_inj.mp hlast).symm
      have hmem : c ∈ (l ++ '.' :: rest).reverse.takeWhile isBlank := by
        rw [← List.mem_reverse, hlost]
        exact List.mem_append_left rest (List.mem_append_right more List.mem_cons_self)
      have hblank : isBlank c = true := List.mem_takeWhile_imp hmem
      rw [hdot] at hblank
      exact absurd hblank (by decide)

theorem starts_stripPort (hcolon : ':' ∉ l) (hopen : '[' ∉ host.head?) (h : l <+: host) : l <+: stripPort host := by
  obtain ⟨rest, hrest⟩ := h
  by_cases hport : ':' ∈ host
  · obtain ⟨port, hcut⟩ := exists_port hopen hport
    apply starts_of_head_not_mem (hrest.trans hcut)
    intro c hc
    rw [List.head?_cons, Option.mem_some] at hc
    exact hc ▸ hcolon
  · rw [stripPort_of_colonless hopen hport]
    exact ⟨rest, hrest⟩

theorem IsFront.firstLabel (hl : IsFront l) (rest : List Char) : firstLabel (l ++ '.' :: rest) = l := by
  have hblank : ∀ c ∈ l.head?, isBlank c = false := fun c hc => (hl.head c hc).2
  have htrim : l <+: trim (l ++ '.' :: rest) := starts_trim hl.nonempty hblank
  have hopen : '[' ∉ (trim (l ++ '.' :: rest)).head? := by
    intro hopen
    obtain ⟨c, cs, rfl⟩ := List.exists_cons_of_ne_nil hl.nonempty
    have hc : c ∈ (trim (c :: cs ++ '.' :: rest)).head? := head?_of_start htrim rfl
    exact (hl.head c rfl).1 (Option.mem_unique hc hopen)
  have hwhole : stripPort (trim (l ++ '.' :: rest)) <+: l ++ '.' :: rest := by
    have hfront := trim_starts (l ++ '.' :: rest)
    rw [dropWhile_isBlank hl.nonempty hblank] at hfront
    exact (stripPort_starts hopen).trans hfront
  obtain ⟨more, hmore⟩ := starts_stripPort hl.colonless hopen htrim
  rw [← hmore, List.prefix_append_right_inj] at hwhole
  rw [Resolver.firstLabel, ← hmore]
  cases more with
  | nil => rw [List.append_nil, takeWhile_ne_self hl.dotless]
  | cons c more =>
    obtain ⟨rfl, -⟩ := List.cons_prefix_cons.mp hwhole
    exact takeWhile_ne_append hl.dotless more

theorem toLower_eq_mark {m : Char} (hm : m ∈ ".:[".toList) (c : Char) : c.toLower = m ↔ c = m := by
  have hmarks : ∀ n < 0x5b, 0x41 ≤ n →
      ".:[".toList.all (fun m => ((Char.ofNat n).toLower == m) == (Char.ofNat n == m)) = true := by decide
  have hc := apply_toLower (fun c => c == m)
    (fun n hhigh hlow => eq_of_beq (List.all_eq_true.mp (hmarks n hhigh hlow) m hm)) c
  rw [← beq_iff_eq, hc, beq_iff_eq]

theorem mark_mem_congr {m : Char} (hm : m ∈ ".:[".toList) (h : l.map Char.toLower = x.map Char.toLower) (hl : m ∈ l) :
    m ∈ x := by
  have hmem : m ∈ x.map Char.toLower := by
    rw [← h]
    exact List.mem_map.mpr ⟨m, hl, (toLower_eq_mark hm m).mpr rfl⟩
  obtain ⟨c, hc, hlower⟩ := List.mem_map.mp hmem
  exact (toLower_eq_mark hm c).mp hlower ▸ hc

theorem IsFront.congr (hl : IsFront l) (h : x.map Char.toLower = l.map Char.toLower) : IsFront x := by
  constructor
  · intro hnil
    rw [hnil] at h
    exact hl.nonempty (List.map_eq_nil_iff.mp h.symm)
  · exact fun hdot => hl.dotless (mark_mem_congr (by decide) h hdot)
  · exact fun hcolon => hl.colonless (mark_mem_congr (by decide) h hcolon)
  · intro c hc
    have hlower : c.toLower ∈ (l.map Char.toLower).head? := by
      rw [← h, List.head?_map, Option.mem_def.mp hc]
      rfl
    rw [List.head?_map] at hlower
    obtain ⟨d, hd, hcase⟩ := Option.mem_map.mp hlower
    obtain ⟨hopen, hblank⟩ := hl.head d hd
    constructor
    · intro hbracket
      have hc' := (toLower_eq_mark (by decide) c).mpr hbracket
      rw [← hcase] at hc'
      exact hopen ((toLower_eq_mark (by decide) d).mp hc')
    · rw [← isBlank_toLower, ← hcase, isBlank_toLower, hblank]

theorem lower_congr (h : x.map Char.toLower = l.map Char.toLower) : lower x = lower l := by
  rw [← lower_map_toLower x, h, lower_map_toLower]

theorem lower_tagged (env nameSpace : String) (cs : List Char) :
    lower ((ofNames env nameSpace).tag ++ cs) = (ofNames env nameSpace).tag ++ lower cs := by
  have hshield : meetsCased (ofNames env nameSpace).tag.reverse = false := by
    unfold ofNames
    by_cases henv : env = ""
    · rw [if_pos henv]
      rfl
    · have hdash : isCaseIgnorable '-' = false ∧ isCased '-' = false := by decide +kernel
      rw [if_neg henv, List.reverse_append, List.reverse_singleton, List.singleton_append, meetsCased_cons, hdash.1,
        hdash.2]
      rfl
  exact lower_append (isOrdinary_ofNames env nameSpace).settled hshield cs

theorem isFront_tagged (hne : id ≠ "") (hdot : ∀ s ∈ [env, id], '.' ∉ s.toList)
    (hcolon : ∀ s ∈ [env, id], ':' ∉ s.toList)
    (hhead : env = "" → ∀ c ∈ id.toList.head?, c ≠ '[' ∧ isBlank c = false) :
    IsFront ((ofNames env nameSpace).tag ++ id.toList) := by
  have hid : id.toList ≠ [] := fun hnil => hne (String.toList_eq_nil_iff.mp hnil)
  unfold ofNames
  by_cases henv : env = ""
  · rw [if_pos henv, List.nil_append]
    exact ⟨hid, hdot id (by simp), hcolon id (by simp), hhead henv⟩
  · rw [if_neg henv]
    constructor
    · exact List.append_ne_nil_of_right_ne_nil _ hid
    · have hdotless : '.' ∉ lower env.toList :=
        fun hmem => hdot env (by simp) (mem_of_mem_lower hmem (by decide))
      simpa using ⟨hdotless, hdot id (by simp)⟩
    · have hcolonless : ':' ∉ lower env.toList := fun hmem => hcolon env (by simp) (colon_of_mem_lower hmem)
      simpa using ⟨hcolonless, hcolon id (by simp)⟩
    · rintro c hc
      have hr : c = 'r' := (Option.some_inj.mp hc).symm
      rw [hr]
      decide

/-- The host that is made for a service leads back to the key of the service, in whatever case its letters are written
and whatever follows it, a port above all. Under this key a directory holds the service. -/
theorem serviceId?_gatewayHost (env nameSpace id port host : String) (hne : id ≠ "")
    (hdot : ∀ s ∈ [env, id], '.' ∉ s.toList) (hcolon : ∀ s ∈ [env, id], ':' ∉ s.toList)
    (hhead : env = "" → ∀ c ∈ id.toList.head?, c ≠ '[' ∧ isBlank c = false)
    (hhost : IsCaseVariant host ((ofNames env nameSpace).gatewayHost id ++ port)) :
    (ofNames env nameSpace).serviceId? host = some (lowerText id) ∧
      ∀ before definition after, (∀ t ∈ after, Service.key t ≠ lowerText id) →
        (Directory.ofServices (before ++ ⟨id, definition⟩ :: after)).lookup (lowerText id) = .ok definition := by
  constructor
  · let tag := (ofNames env nameSpace).tag
    have hmade : ((ofNames env nameSpace).gatewayHost id ++ port).toList =
        (tag ++ id.toList) ++ '.' :: (nameSpace ++ ".svc.cluster.local" ++ port).toList := by
      simp [gatewayHost, resourceName, ofNames, tag]
    rw [IsCaseVariant, hmade, List.map_append, List.map_cons, List.map_eq_append_iff] at hhost
    -- A dot has no other case, so the variant is cut where the original is.
    obtain ⟨label, rest, hsplit, hlabel, hrest⟩ := hhost
    obtain ⟨dot, rest, rfl, hdot', -⟩ := List.map_eq_cons_iff.mp hrest
    obtain rfl : dot = '.' := (toLower_eq_mark (by decide) dot).mp hdot'
    have hfront : IsFront label := (isFront_tagged hne hdot hcolon hhead).congr hlabel
    have hlower : lower label = tag ++ lower id.toList := by
      rw [lower_congr hlabel]
      exact lower_tagged env nameSpace id.toList
    have hkey : lower id.toList ≠ [] := by
      rw [Ne, lower_eq_nil_iff]
      exact fun hnil => hne (String.toList_eq_nil_iff.mp hnil)
    rw [← String.ofList_toList (s := host), lowerText, serviceId?_eq_some_iff, hsplit, hfront.firstLabel, hlower]
    exact ⟨hkey, untag_eq_iff.mpr (.inl rfl)⟩
  · intro before definition after hafter
    have hlast : (before ++ ⟨id, definition⟩ :: after).reverse.find? (fun t => t.key == lowerText id) =
        some ⟨id, definition⟩ := by
      have hnone : after.reverse.find? (fun t => t.key == lowerText id) = none := by
        rw [List.find?_eq_none]
        intro t ht
        simpa using hafter t (List.mem_reverse.mp ht)
      rw [List.reverse_append, List.reverse_cons, List.append_assoc, List.find?_append, hnone, Option.none_or,
        List.singleton_append, List.find?_cons_of_pos]
      exact beq_self_eq_true (lowerText id)
    rw [Directory.lookup, Directory.get?_ofServices, hlast]
    rfl

/-- The id repeats the tag and ends in a sigma, and the namespace has a colon like the one of the port. -/
theorem serviceId?_gatewayHost_sigma :
    let host := "RE-ENV-re-Env-ΑΣ.Team:B.svc.CLUSTER.local:8080"
    IsCaseVariant host ((ofNames "Env" "team:b").gatewayHost "re-env-ΑΣ" ++ ":8080") ∧
      (ofNames "Env" "team:b").serviceId? host = some "re-env-ας" ∧
      (Directory.ofServices [⟨"re-env-ΑΣ", { targetUrl := "http://[::1]/" }⟩]).lookup "re-env-ας" =
        .ok { targetUrl := "http://[::1]/" } := by
  intro host
  have hhost : IsCaseVariant host ((ofNames "Env" "team:b").gatewayHost "re-env-ΑΣ" ++ ":8080") := by decide +kernel
  have hkey : lowerText "re-env-ΑΣ" = "re-env-ας" := by decide +kernel
  obtain ⟨hid, hstored⟩ := serviceId?_gatewayHost "Env" "team:b" "re-env-ΑΣ" ":8080" host (by decide) (by decide)
    (by decide) (fun henv => absurd henv (by decide)) hhost
  rw [hkey] at hid hstored
  exact ⟨hhost, hid, hstored [] _ [] (fun _ ht => nomatch ht)⟩

end Resolver
end CredentialGateway
