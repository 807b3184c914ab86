import CredentialGateway.Http.RequestUri
import CredentialGateway.Outbound
import CredentialGateway.Proofs.Url.Held

/-! Where a joined URL leads: always to the server of the target, and below the path of the target unless the dot
segments of the request climb out of it. -/

namespace CredentialGateway.Url

def baseSegments (u : Url) : List (List Char) :=
  if u.segments.getLast? = some [] then u.segments.dropLast else u.segments

def relativeSegments (path : List Char) : List (List Char) := splitSegments true (dropBreaks (dropSlash false path))

/-- Going through these segments from a place `depth` segments down never leads above the start. -/
def staysBelow (depth : Nat) : List (List Char) → Bool
  | [] => true
  | s :: rest =>
    if isDoubleDot s then 0 < depth && staysBelow (depth - 1) rest
    else if isSingleDot s then staysBelow depth rest
    else staysBelow (depth + 1) rest

/-- The reversed list `done` goes on for at least `depth` segments below `base`. -/
def LiesBelow (base : List (List Char)) (depth : Nat) (done : List (List Char)) : Prop :=
  ∃ extra, done = extra ++ base ∧ depth ≤ extra.length

variable {target : Url} {segments base done : List (List Char)} {depth : Nat} {cs : List Char}

theorem LiesBelow.suffix (h : LiesBelow base depth done) : base <:+ done := by
  obtain ⟨extra, rfl, -⟩ := h
  exact List.suffix_append extra base

theorem LiesBelow.push (h : LiesBelow base depth done) (s : List Char) : LiesBelow base (depth + 1) (s :: done) := by
  obtain ⟨extra, rfl, hdepth⟩ := h
  exact ⟨s :: extra, rfl, Nat.succ_le_succ hdepth⟩

theorem LiesBelow.ascend (h : LiesBelow base depth done) (hdepth : 0 < depth) :
    LiesBelow base (depth - 1) (ascend done) := by
  obtain ⟨extra, rfl, hlength⟩ := h
  obtain ⟨s, rest, rfl⟩ := List.exists_cons_of_length_pos (Nat.lt_of_lt_of_le hdepth hlength)
  rw [List.length_cons] at hlength
  rw [List.cons_append, Url.ascend]
  split
  · exact ⟨s :: rest, rfl, by rw [List.length_cons]; omega⟩
  · exact ⟨rest, rfl, by omega⟩

theorem LiesBelow.suffix_descend (h : LiesBelow base depth done) (hstays : staysBelow depth segments) :
    base <:+ descend false done segments := by
  -- `depth` counts the segments below `base` that dots may still take away.
  induction segments generalizing done depth with
  | nil => exact h.suffix
  | cons s rest ih =>
    rw [staysBelow] at hstays
    by_cases hrest : rest = []
    · subst hrest
      rw [descend]
      split at hstays
      · rw [if_pos (by assumption)]
        exact ((h.ascend (by simp at hstays; exact hstays.1)).push []).suffix
      · rw [if_neg (by assumption)]
        split <;> exact (h.push _).suffix
    · rw [descend_cons false done s hrest]
      split at hstays
      · rw [if_pos (by assumption)]
        rw [Bool.and_eq_true, decide_eq_true_eq] at hstays
        exact ih (h.ascend hstays.1) hstays.2
      · rw [if_neg (by assumption)]
        split at hstays
        · rw [if_pos (by assumption)]
          exact ih h hstays
        · rw [if_neg (by assumption)]
          exact ih (h.push _) hstays

theorem IsHeld.segments_spec (h : target.IsHeld) :
    target.path = joinSegments target.segments ∧ target.segments ≠ [] ∧ ∀ s ∈ target.segments, IsPlain s := by
  obtain ⟨segments, hne, hplain, hpath⟩ := h.path
  have hsegments : target.segments = segments := by
    rw [Url.segments, hpath, splitOn_joinSegments (fun s hs => (hplain s hs).slash_not_mem) hne]
  rw [hsegments]
  exact ⟨hpath, hne, hplain⟩

theorem getLast?_joinSegments (hplain : ∀ s ∈ segments, IsPlain s) (hne : segments ≠ []) :
    (joinSegments segments).getLast? = some '/' ↔ segments.getLast? = some [] := by
  obtain ⟨init, last, rfl⟩ : ∃ init last, segments = init ++ [last] :=
    ⟨segments.dropLast, segments.getLast hne, (List.dropLast_concat_getLast hne).symm⟩
  have hlast : IsPlain last := hplain last (List.mem_append_right _ List.mem_cons_self)
  rw [joinSegments_append, joinSegments_cons, show joinSegments [] = [] from rfl, List.append_nil, List.getLast?_append,
    List.getLast?_cons, List.getLast?_concat, Option.some_or, Option.some_inj, Option.some_inj]
  cases hend : last.getLast? with
  | none => simp [List.getLast?_eq_none_iff.mp hend]
  | some c =>
    have hc : c ∈ last := List.mem_of_getLast? hend
    have hslash : c ≠ '/' := (hlast.chars c hc).2.1
    simp [hslash, List.ne_nil_of_mem hc]

theorem joinPaths_nil (a : List Char) : joinPaths a [] = a := by
  unfold joinPaths
  split <;> simp_all

theorem joinPaths_of_ne_nil {a b base : List Char} (hb : b ≠ [])
    (ha : a = base ++ ['/'] ∨ a = base ∧ a.getLast? ≠ some '/') :
    joinPaths a b = base ++ '/' :: dropSlash false b := by
  obtain ⟨c, rest, rfl⟩ := List.exists_cons_of_ne_nil hb
  rcases ha with rfl | ⟨rfl, hlast⟩
  · by_cases hc : c = '/'
    · subst hc
      simp [joinPaths, dropSlash]
    · simp [joinPaths, dropSlash, hc]
  · have hlast : (a.getLast? == some '/') = false := beq_eq_false_iff_ne.mpr hlast
    by_cases hc : c = '/'
    · subst hc
      simp [joinPaths, dropSlash, hlast]
    · simp [joinPaths, dropSlash, hlast, hc]

theorem dropBreaks_eq_self (h : ∀ c ∈ cs, 0x20 ≤ c.toNat) : dropBreaks cs = cs := by
  refine List.filter_eq_self.mpr fun c hc => ?_
  have hne {d : Char} (hd : d.toNat < 0x20) : c ≠ d := by
    rintro rfl
    exact absurd (h c hc) (Nat.not_le.mpr hd)
  simp [hne (by decide : '\t'.toNat < 0x20), hne (by decide : '\n'.toNat < 0x20), hne (by decide : '\r'.toNat < 0x20)]

theorem dropBreaks_joinSegments (hplain : ∀ s ∈ segments, IsPlain s) :
    dropBreaks (joinSegments segments) = joinSegments segments := by
  refine dropBreaks_eq_self fun c hc => ?_
  obtain ⟨s, hs, hc⟩ := List.mem_flatMap.mp hc
  rcases List.mem_cons.mp hc with rfl | hc
  · decide
  · have hset := ((hplain s hs).chars c hc).1
    simp only [inPathSet, inFragmentSet, isControl, Bool.or_eq_false_iff, decide_eq_false_iff_not] at hset
    exact Nat.not_lt.mp hset.1.1.1

theorem isFlat_of_authority (h : target.authority.isSome) : target.isFlat = false := by
  rw [isFlat, Option.isNone_eq_false_iff.mpr h, Bool.false_and]

theorem setPath_of_authority (h : target.authority.isSome) (cs : List Char) :
    target.setPath cs = { target with path := readPath target.scheme (dropBreaks cs) } := by
  simp [setPath, isFlat_of_authority h]

theorem setQuery_of_authority (h : target.authority.isSome) (query : Option (List Char)) :
    target.setQuery query = { target with query := query.map (readQuery target.scheme ∘ dropBreaks) } := by
  cases query with
  | none => simp [setQuery, isFlat_of_authority h]
  | some cs => rfl

theorem join_of_authority (h : target.authority.isSome) (cs : List Char) :
    target.join cs =
      { target with
        path := readPath target.scheme (dropBreaks (joinPaths target.path (splitQuery cs).1))
        query := (joinQueries target.query (splitQuery cs).2).map (readQuery target.scheme ∘ dropBreaks) } := by
  rw [join]
  dsimp only
  rw [setPath_of_authority h]
  refine setQuery_of_authority ?_ _
  exact h

theorem dropBreaks_append (a b : List Char) : dropBreaks (a ++ b) = dropBreaks a ++ dropBreaks b :=
  List.filter_append ..

theorem IsHeld.path_base (h : target.IsHeld) :
    (∀ s ∈ target.baseSegments, IsPlain s) ∧
      (target.path = joinSegments target.baseSegments ++ ['/'] ∨
        target.path = joinSegments target.baseSegments ∧ target.path.getLast? ≠ some '/') := by
  obtain ⟨hpath, hne, hplain⟩ := h.segments_spec
  rw [baseSegments]
  split
  · rename_i hlast
    refine ⟨fun s hs => hplain s (List.dropLast_subset _ hs), .inl ?_⟩
    obtain ⟨init, hinit⟩ := List.getLast?_eq_some_iff.mp hlast
    rw [hpath, hinit, List.dropLast_concat]
    exact joinSegments_append init [[]]
  · rename_i hlast
    exact ⟨hplain, .inr ⟨hpath, fun h => hlast ((getLast?_joinSegments hplain hne).mp (hpath ▸ h))⟩⟩

theorem IsHeld.path_join (h : target.IsHeld) (cs : List Char) :
    (target.join cs).path =
      if (splitQuery cs).1 = [] then target.path
      else joinSegments (descend false target.baseSegments.reverse (relativeSegments (splitQuery cs).1)).reverse := by
  obtain ⟨hbase, hends⟩ := h.path_base
  rw [join_of_authority h.authority]
  dsimp only
  split
  · rename_i hempty
    obtain ⟨hpath, hne, hplain⟩ := h.segments_spec
    rw [hempty, joinPaths_nil, hpath, dropBreaks_joinSegments hplain, readPath_web h.web,
      splitSegments_joinSegments hplain hne, descend_plain hplain, List.append_nil, List.reverse_reverse]
  · rename_i hne
    have hbreaks : dropBreaks (joinPaths target.path (splitQuery cs).1) =
        joinSegments target.baseSegments ++ '/' :: dropBreaks (dropSlash false (splitQuery cs).1) := by
      rw [joinPaths_of_ne_nil hne hends, dropBreaks_append, dropBreaks_joinSegments hbase]
      rfl
    rw [hbreaks, readPath_web h.web, splitSegments_joinSegments_append hbase,
      descend_plain_append hbase [] (splitSegments_ne_nil true _), List.append_nil, relativeSegments]

/-- A joined URL names the server of the target, and a resource below its path unless the path of the request leads up
out of it. -/
theorem join_below_target {text : String} (hparse : parse text = .ok target)
    (hweb : target.scheme = "http".toList ∨ target.scheme = "https".toList) (cs : List Char) :
    (target.join cs).scheme = target.scheme ∧ (target.join cs).authority = target.authority ∧
      (staysBelow 0 (relativeSegments (splitQuery cs).1) → target.baseSegments <+: (target.join cs).segments) := by
  have h : target.IsHeld := isHeld_of_parse hparse hweb
  refine ⟨by rw [join_of_authority h.authority], by rw [join_of_authority h.authority], fun hstays => ?_⟩
  rw [Url.segments, h.path_join cs]
  split
  · change target.baseSegments <+: target.segments
    rw [baseSegments]
    split
    · exact List.dropLast_prefix _
    · exact List.prefix_rfl
  · have hplain : ∀ s ∈ descend false target.baseSegments.reverse (relativeSegments (splitQuery cs).1), IsPlain s :=
      fun s hs => isPlain_of_mem_descend (fun t ht => h.path_base.1 t (List.mem_reverse.mp ht))
        (fun t ht => chars_of_mem_splitSegments ht) hs
    rw [splitOn_joinSegments (fun s hs => (hplain s (List.mem_reverse.mp hs)).slash_not_mem)
      (mt List.reverse_eq_nil_iff.mp (descend_ne_nil false _ (splitSegments_ne_nil true _))),
      ← List.reverse_suffix, List.reverse_reverse]
    exact LiesBelow.suffix_descend ⟨[], rfl, Nat.le_refl 0⟩ hstays

def tenantTarget : Url :=
  ⟨"http".toList, some ⟨[], [], .ipv6 [0, 0, 0, 0, 0, 0, 0, 1], none⟩, "/tenant-a".toList, none, none⟩

theorem tenantTarget_parse : parse "http://[::1]/tenant-a" = .ok tenantTarget := rfl

/-- Dot segments that stay below the tenant do no harm. -/
theorem join_below_tenant :
    staysBelow 0 (relativeSegments (splitQuery "/orders/../x?limit=10".toList).1) ∧
      ["tenant-a".toList] <+: (tenantTarget.join "/orders/../x?limit=10".toList).segments :=
  ⟨by decide, (join_below_target tenantTarget_parse (.inl rfl) "/orders/../x?limit=10".toList).2.2 (by decide)⟩

/-- A request that is accepted as any other leads to a resource beside the tenant. -/
theorem join_leaves_tenant :
    ∃ uri, Http.RequestUri.parse? "/../x" = some uri ∧ parse "http://[::1]/tenant-a" = .ok tenantTarget ∧
      ¬ tenantTarget.baseSegments <+: (tenantTarget.join uri.pathAndQuery).segments :=
  ⟨.origin "/../x".toList, rfl, tenantTarget_parse, by decide⟩

end CredentialGateway.Url
