import CredentialGateway.Proofs.Url.Percent

/-! Paths of URLs with rules for hosts: their segments are plain, so that reading such a path again gives it back, and
reading on below it leaves it as it is. -/

namespace CredentialGateway.Url

/-- A segment that is read as it stands: it has nothing to encode, parts no path and is no dot segment. -/
structure IsPlain (s : List Char) : Prop where
  chars : ∀ c ∈ s, inPathSet c = false ∧ c ≠ '/' ∧ c ≠ '\\'
  single : isSingleDot s = false
  double : isDoubleDot s = false

variable {segments done base : List (List Char)} {s : List Char}

theorem IsPlain.nil : IsPlain [] := ⟨fun _ hc => (nomatch hc), by decide, by decide⟩

theorem IsPlain.percentEncode (hs : ∀ c ∈ s, c ≠ '/' ∧ c ≠ '\\') (hsingle : isSingleDot s = false)
    (hdouble : isDoubleDot s = false) : IsPlain (percentEncode inPathSet s) :=
  ⟨fun _ hc => plain_of_mem_percentEncode hc hs, isSingleDot_percentEncode hsingle, isDoubleDot_percentEncode hdouble⟩

theorem IsPlain.slash_not_mem (h : IsPlain s) : '/' ∉ s := fun hc => (h.chars _ hc).2.1 rfl

theorem spellSegment_false (done : List (List Char)) (s : List Char) :
    spellSegment false done s = percentEncode inPathSet s := rfl

theorem IsPlain.spell (h : IsPlain s) (done : List (List Char)) : spellSegment false done s = s :=
  percentEncode_eq_self fun c hc => (h.chars c hc).1

theorem descend_cons (file : Bool) (done : List (List Char)) (s : List Char) {rest : List (List Char)}
    (hrest : rest ≠ []) :
    descend file done (s :: rest) =
      if isDoubleDot s then descend file (ascend done) rest
      else if isSingleDot s then descend file done rest
      else descend file (spellSegment file done s :: done) rest := by
  cases rest with
  | nil => exact absurd rfl hrest
  | cons _ _ => rfl

theorem mem_of_mem_ascend (h : s ∈ ascend done) : s ∈ done := by
  cases done with
  | nil => exact h
  | cons t rest =>
    rw [ascend] at h
    split at h
    · exact h
    · exact List.mem_cons_of_mem t h

theorem isPlain_of_mem_descend (hdone : ∀ t ∈ done, IsPlain t)
    (hsegments : ∀ t ∈ segments, ∀ c ∈ t, c ≠ '/' ∧ c ≠ '\\') (hs : s ∈ descend false done segments) : IsPlain s := by
  have hascend {done : List (List Char)} (hdone : ∀ t ∈ done, IsPlain t) : ∀ t ∈ ascend done, IsPlain t :=
    fun t ht => hdone t (mem_of_mem_ascend ht)
  have hspell {done : List (List Char)} {t : List Char} (hchars : ∀ c ∈ t, c ≠ '/' ∧ c ≠ '\\')
      (hdone : ∀ t ∈ done, IsPlain t) (hdouble : ¬ isDoubleDot t = true) (hsingle : ¬ isSingleDot t = true) :
      ∀ u ∈ spellSegment false done t :: done, IsPlain u := by
    rw [spellSegment_false]
    exact List.forall_mem_cons.mpr
      ⟨.percentEncode hchars (Bool.eq_false_iff.mpr hsingle) (Bool.eq_false_iff.mpr hdouble), hdone⟩
  -- The last segment is a case of its own: dots leave an empty segment there.
  induction segments generalizing done with
  | nil => exact hdone s hs
  | cons t rest ih =>
    obtain ⟨hchars, htail⟩ := List.forall_mem_cons.mp hsegments
    by_cases hrest : rest = []
    · subst hrest
      rw [descend] at hs
      split at hs
      · exact List.forall_mem_cons.mpr ⟨.nil, hascend hdone⟩ s hs
      · split at hs
        · exact List.forall_mem_cons.mpr ⟨.nil, hdone⟩ s hs
        · exact hspell hchars hdone (by assumption) (by assumption) s hs
    · rw [descend_cons false done t hrest] at hs
      split at hs
      · exact ih (hascend hdone) htail hs
      · split at hs
        · exact ih hdone htail hs
        · exact ih (hspell hchars hdone (by assumption) (by assumption)) htail hs

theorem descend_ne_nil (file : Bool) (done : List (List Char)) (hne : segments ≠ []) :
    descend file done segments ≠ [] := by
  induction segments generalizing done with
  | nil => exact absurd rfl hne
  | cons s rest ih =>
    by_cases hrest : rest = []
    · subst hrest
      rw [descend]
      split
      · exact List.cons_ne_nil _ _
      · split <;> exact List.cons_ne_nil _ _
    · rw [descend_cons file done s hrest]
      split
      · exact ih _ hrest
      · split <;> exact ih _ hrest

theorem descend_dotless (hdots : ∀ s ∈ segments, isSingleDot s = false ∧ isDoubleDot s = false)
    (done : List (List Char)) :
    descend false done segments = (segments.map (percentEncode inPathSet)).reverse ++ done := by
  induction segments generalizing done with
  | nil => rfl
  | cons s rest ih =>
    obtain ⟨⟨hsingle, hdouble⟩, htail⟩ := List.forall_mem_cons.mp hdots
    by_cases hrest : rest = []
    · subst hrest
      rw [descend, if_neg (by simp [hdouble]), if_neg (by simp [hsingle])]
      rfl
    · rw [descend_cons false done s hrest, if_neg (by simp [hdouble]), if_neg (by simp [hsingle]), ih htail,
        spellSegment_false]
      simp

theorem descend_plain (hbase : ∀ s ∈ base, IsPlain s) (done : List (List Char)) :
    descend false done base = base.reverse ++ done := by
  have hencoded : base.map (Url.percentEncode inPathSet) = base := by
    refine (List.map_congr_left fun s hs => (hbase s hs).spell []).trans ?_
    exact List.map_id' base
  rw [descend_dotless (fun s hs => ⟨(hbase s hs).single, (hbase s hs).double⟩), hencoded]

theorem descend_plain_append (hbase : ∀ s ∈ base, IsPlain s) (done : List (List Char)) (hne : segments ≠ []) :
    descend false done (base ++ segments) = descend false (base.reverse ++ done) segments := by
  induction base generalizing done with
  | nil => rfl
  | cons s rest ih =>
    obtain ⟨hs, htail⟩ := List.forall_mem_cons.mp hbase
    rw [List.cons_append, descend_cons false done s (by simp [hne]), if_neg (by simp [hs.double]),
      if_neg (by simp [hs.single]), hs.spell, ih htail]
    simp

theorem not_mem_of_mem_splitOn {cs : List Char} (h : s ∈ cs.splitOn '/') : '/' ∉ s ∧ ∀ c ∈ s, c ∈ cs := by
  induction cs generalizing s with
  | nil =>
    obtain rfl := List.mem_singleton.mp h
    exact ⟨List.not_mem_nil, fun c hc => nomatch hc⟩
  | cons d cs ih =>
    rw [List.splitOn_cons_eq_if_modifyHead] at h
    split at h
    · rcases List.mem_cons.mp h with rfl | h
      · exact ⟨List.not_mem_nil, fun c hc => nomatch hc⟩
      · obtain ⟨hslash, hmem⟩ := ih h
        exact ⟨hslash, fun c hc => List.mem_cons_of_mem d (hmem c hc)⟩
    · rename_i hd
      obtain ⟨first, rest, hsplit⟩ := List.exists_cons_of_ne_nil (List.splitOn_ne_nil '/' cs)
      rw [hsplit, List.modifyHead_cons] at h
      rw [hsplit] at ih
      rcases List.mem_cons.mp h with rfl | h
      · obtain ⟨hslash, hmem⟩ := ih List.mem_cons_self
        refine ⟨?_, fun c hc => ?_⟩
        · rw [List.mem_cons, not_or]
          exact ⟨fun heq => hd (beq_iff_eq.mpr heq.symm), hslash⟩
        · rcases List.mem_cons.mp hc with rfl | hc
          · exact List.mem_cons_self
          · exact List.mem_cons_of_mem d (hmem c hc)
      · obtain ⟨hslash, hmem⟩ := ih (List.mem_cons_of_mem first h)
        exact ⟨hslash, fun c hc => List.mem_cons_of_mem d (hmem c hc)⟩

theorem chars_of_mem_splitSegments {cs : List Char} (h : s ∈ splitSegments true cs) :
    ∀ c ∈ s, c ≠ '/' ∧ c ≠ '\\' := by
  obtain ⟨hslash, hmem⟩ := not_mem_of_mem_splitOn h
  intro c hc
  obtain ⟨d, -, hd⟩ := List.mem_map.mp (hmem c hc)
  refine ⟨fun heq => hslash (heq ▸ hc), fun heq => ?_⟩
  split at hd
  · rw [heq] at hd
    cases hd
  · rename_i hback
    exact hback (hd.trans heq)

theorem splitSegments_ne_nil (special : Bool) (cs : List Char) : splitSegments special cs ≠ [] :=
  List.splitOn_ne_nil _ _

theorem IsPlain.map_backslash (h : IsPlain s) : (s.map fun c => if c = '\\' then '/' else c) = s := by
  refine (List.map_congr_left fun c hc => if_neg (h.chars c hc).2.2).trans ?_
  exact List.map_id' s

theorem splitSegments_plain_cons (hs : IsPlain s) (cs : List Char) :
    splitSegments true (s ++ '/' :: cs) = s :: splitSegments true cs := by
  simp only [splitSegments, if_true, List.map_append, List.map_cons, hs.map_backslash]
  exact List.splitOn_append_cons_self_of_not_mem hs.slash_not_mem _

theorem splitSegments_plain (hs : IsPlain s) : splitSegments true s = [s] := by
  simp only [splitSegments, if_true, hs.map_backslash]
  exact List.splitOn_eq_singleton hs.slash_not_mem

theorem joinSegments_cons (s : List Char) (rest : List (List Char)) :
    joinSegments (s :: rest) = '/' :: (s ++ joinSegments rest) := rfl

theorem joinSegments_append (base rest : List (List Char)) :
    joinSegments (base ++ rest) = joinSegments base ++ joinSegments rest := List.flatMap_append

theorem splitSegments_joinSegments_append (hbase : ∀ s ∈ base, IsPlain s) (cs : List Char) :
    splitSegments true (dropSlash true (joinSegments base ++ '/' :: cs)) = base ++ splitSegments true cs := by
  induction base with
  | nil => rfl
  | cons s rest ih =>
    obtain ⟨hs, htail⟩ := List.forall_mem_cons.mp hbase
    -- What follows the first segment starts with a slash, at which that segment ends.
    have hnext : ∃ ds, joinSegments rest ++ '/' :: cs = '/' :: ds := by
      cases rest with
      | nil => exact ⟨cs, rfl⟩
      | cons t rest => exact ⟨_, rfl⟩
    obtain ⟨ds, hds⟩ := hnext
    have hrest := ih htail
    rw [hds] at hrest
    calc splitSegments true (dropSlash true (joinSegments (s :: rest) ++ '/' :: cs))
        = splitSegments true (s ++ (joinSegments rest ++ '/' :: cs)) := by rw [joinSegments_cons]; simp [dropSlash]
      _ = s :: splitSegments true ds := by rw [hds, splitSegments_plain_cons hs]
      _ = s :: (rest ++ splitSegments true cs) := congrArg (s :: ·) hrest

theorem splitSegments_joinSegments (hbase : ∀ s ∈ base, IsPlain s) (hne : base ≠ []) :
    splitSegments true (dropSlash true (joinSegments base)) = base := by
  obtain ⟨init, last, rfl⟩ : ∃ init last, base = init ++ [last] :=
    ⟨base.dropLast, base.getLast hne, (List.dropLast_concat_getLast hne).symm⟩
  have hinit : ∀ s ∈ init, IsPlain s := fun s hs => hbase s (List.mem_append_left _ hs)
  have hlast : IsPlain last := hbase last (List.mem_append_right _ List.mem_cons_self)
  rw [joinSegments_append, joinSegments_cons, show joinSegments [] = [] from rfl, List.append_nil,
    splitSegments_joinSegments_append hinit, splitSegments_plain hlast]

theorem map_intercalate {α β : Type} {f : List α → List β} (happend : ∀ a b, f (a ++ b) = f a ++ f b)
    (separator : List α) (parts : List (List α)) :
    f (separator.intercalate parts) = (f separator).intercalate (parts.map f) := by
  induction parts with
  | nil => simpa using happend [] []
  | cons part parts ih =>
    cases parts with
    | nil => simp
    | cons next parts =>
      rw [List.map_cons, List.map_cons, List.intercalate_cons_cons, List.intercalate_cons_cons, happend, happend, ih,
        List.map_cons]

theorem joinSegments_eq_intercalate (hne : segments ≠ []) : joinSegments segments = '/' :: ['/'].intercalate segments := by
  induction segments with
  | nil => exact absurd rfl hne
  | cons s rest ih =>
    cases rest with
    | nil => simp [joinSegments]
    | cons t rest =>
      rw [joinSegments_cons, ih (List.cons_ne_nil t rest), List.intercalate_cons_cons]
      simp

theorem splitOn_joinSegments (hslash : ∀ s ∈ segments, '/' ∉ s) (hne : segments ≠ []) :
    ((joinSegments segments).drop 1).splitOn '/' = segments := by
  rw [joinSegments_eq_intercalate hne, List.drop_one, List.tail_cons, List.splitOn_intercalate '/' hslash hne]

theorem joinSegments_splitOn (cs : List Char) : joinSegments (cs.splitOn '/') = '/' :: cs := by
  rw [joinSegments_eq_intercalate (List.splitOn_ne_nil '/' cs), List.intercalate_splitOn]

theorem joinSegments_map_percentEncode (segments : List (List Char)) :
    joinSegments (segments.map (percentEncode inPathSet)) = percentEncode inPathSet (joinSegments segments) := by
  have hslash : inPathSet '/' = false := by decide
  simp [joinSegments, percentEncode, List.flatMap_map, List.flatMap_assoc, hslash]

end CredentialGateway.Url
