import CredentialGateway.Proofs.Http.RequestUri
import CredentialGateway.Proofs.Url.Confinement

/-! What a joined URL is, character by character, when the path of the request has no dot segments. -/

namespace CredentialGateway.Url

def withoutSlash (path : List Char) : List Char := if path.getLast? = some '/' then path.dropLast else path

/-- The queries that are not empty, with ampersands between them; none if there are none. -/
def mergeQueries (queries : List (List Char)) : Option (List Char) :=
  let present := queries.filter (· ≠ [])
  if present = [] then none else some (['&'].intercalate present)

variable {target : Url} {path cs : List Char} {query : Option (List Char)}

theorem splitQuery_append (hpath : '?' ∉ path) (query : Option (List Char)) :
    splitQuery (path ++ query.elim [] (List.cons '?')) = (path, query) := by
  have hkeep : ∀ c ∈ path, decide (c ≠ '?') = true := fun c hc => decide_eq_true fun heq => hpath (heq ▸ hc)
  unfold splitQuery
  rw [List.takeWhile_append_of_pos hkeep]
  cases query with
  | none => simp
  | some query => simp

theorem printable_of_encoded {c : Char} (h : inSpecialQuerySet c = false) : 0x20 ≤ c.toNat := by
  simp only [inSpecialQuerySet, inQuerySet, isControl, Bool.or_eq_false_iff, decide_eq_false_iff_not] at h
  exact Nat.not_lt.mp h.1.1.1

theorem dropSlash_suffix (cs : List Char) : dropSlash false cs <:+ cs := by
  cases cs with
  | nil => exact List.suffix_rfl
  | cons c rest =>
    rw [dropSlash]
    split
    · exact List.suffix_cons c rest
    · exact List.suffix_rfl

theorem mem_splitOn_of_dropSlash {s : List Char} (hs : s ∈ (dropSlash false cs).splitOn '/') : s ∈ cs.splitOn '/' := by
  cases cs with
  | nil => exact hs
  | cons c rest =>
    by_cases hc : c = '/'
    · subst hc
      rw [List.splitOn_cons_eq_if_modifyHead, if_pos (beq_self_eq_true _)]
      exact List.mem_cons_of_mem _ hs
    · have hsame : dropSlash false (c :: rest) = c :: rest := by simp [dropSlash, hc]
      rwa [hsame] at hs

theorem joinQueries_eq_mergeQueries (a b : Option (List Char)) :
    joinQueries a b = mergeQueries [a.getD [], b.getD []] := by
  have hpresent (q : Option (List Char)) : q.filter (· ≠ []) = if q.getD [] = [] then none else some (q.getD []) := by
    cases q with
    | none => rfl
    | some q => by_cases hq : q = [] <;> simp [Option.filter_some, hq]
  unfold joinQueries
  rw [hpresent, hpresent]
  by_cases ha : a.getD [] = [] <;> by_cases hb : b.getD [] = [] <;> simp [mergeQueries, ha, hb]

theorem map_mergeQueries {f : List Char → List Char} (happend : ∀ a b, f (a ++ b) = f a ++ f b) (hand : f ['&'] = ['&'])
    {queries : List (List Char)} (hempty : ∀ q ∈ queries, f q = [] → q = []) :
    (mergeQueries queries).map f = mergeQueries (queries.map f) := by
  have hnil : f [] = [] := by simpa using happend [] []
  have hfilter : (queries.map f).filter (· ≠ []) = (queries.filter (· ≠ [])).map f := by
    rw [List.filter_map]
    congr 1
    refine List.filter_congr fun q hq => decide_eq_decide.mpr (not_congr ⟨hempty q hq, ?_⟩)
    rintro rfl
    exact hnil
  unfold mergeQueries
  rw [hfilter]
  simp only [List.map_eq_nil_iff]
  split
  · rfl
  · exact congrArg some ((map_intercalate happend _ _).trans (by rw [hand]))

theorem IsHeld.joinSegments_baseSegments (h : target.IsHeld) : joinSegments target.baseSegments = withoutSlash target.path := by
  rcases h.path_base.2 with hslash | ⟨hpath, hlast⟩
  · rw [hslash, withoutSlash, List.getLast?_concat, if_pos rfl, List.dropLast_concat]
  · rw [withoutSlash, if_neg hlast, hpath]

theorem IsHeld.path_join_dotless (h : target.IsHeld) (hsplit : (splitQuery cs).1 = path)
    (hcs : ∀ c ∈ path, 0x20 ≤ c.toNat) (hback : '\\' ∉ path)
    (hdots : ∀ s ∈ path.splitOn '/', isSingleDot s = false ∧ isDoubleDot s = false) :
    (target.join cs).path =
      if path = [] then target.path
      else withoutSlash target.path ++ '/' :: percentEncode inPathSet (dropSlash false path) := by
  have hmem : ∀ c ∈ dropSlash false path, c ∈ path := fun c hc => (dropSlash_suffix path).subset hc
  have hrelative : relativeSegments path = (dropSlash false path).splitOn '/' := by
    have hmap : (dropSlash false path).map (fun c => if c = '\\' then '/' else c) = dropSlash false path := by
      refine (List.map_congr_left fun c hc => if_neg ?_).trans (List.map_id' _)
      rintro rfl
      exact hback (hmem _ hc)
    rw [relativeSegments, dropBreaks_eq_self fun c hc => hcs c (hmem c hc), splitSegments, if_pos rfl, hmap]
  have hdotless : ∀ s ∈ (dropSlash false path).splitOn '/', isSingleDot s = false ∧ isDoubleDot s = false :=
    fun s hs => hdots s (mem_splitOn_of_dropSlash hs)
  have hslash : percentEncode inPathSet ('/' :: dropSlash false path) =
      '/' :: percentEncode inPathSet (dropSlash false path) := rfl
  rw [h.path_join, hsplit, hrelative, descend_dotless hdotless, List.reverse_append, List.reverse_reverse,
    List.reverse_reverse, joinSegments_append, h.joinSegments_baseSegments, joinSegments_map_percentEncode,
    joinSegments_splitOn, hslash]

theorem IsHeld.query_join (h : target.IsHeld) (hsplit : (splitQuery cs).2 = query)
    (hheld : ∀ q, target.query = some q → ∀ c ∈ q, inSpecialQuerySet c = false)
    (hquery : ∀ q, query = some q → ∀ c ∈ q, 0x20 ≤ c.toNat) :
    (target.join cs).query = mergeQueries [target.query.getD [], percentEncode inSpecialQuerySet (query.getD [])] := by
  let read := fun q => percentEncode inSpecialQuerySet (dropBreaks q)
  have hread : readQuery target.scheme ∘ dropBreaks = read := by
    funext q
    simp [read, readQuery, isSpecialScheme_web h.web]
  -- The query of the target is held encoded.
  have hfirst : read (target.query.getD []) = target.query.getD [] := by
    cases hq : target.query with
    | none => rfl
    | some q =>
      have hclean := hheld q hq
      simp only [read, Option.getD_some]
      rw [dropBreaks_eq_self fun c hc => printable_of_encoded (hclean c hc), percentEncode_eq_self hclean]
  have hsecond : read (query.getD []) = percentEncode inSpecialQuerySet (query.getD []) := by
    cases hq : query with
    | none => rfl
    | some q => exact congrArg (percentEncode inSpecialQuerySet) (dropBreaks_eq_self (hquery q hq))
  have hempty : ∀ q ∈ [target.query.getD [], query.getD []], read q = [] → q = [] := by
    simp only [List.forall_mem_cons, hfirst, hsecond, percentEncode_eq_nil]
    exact ⟨id, id, fun _ hq => absurd hq List.not_mem_nil⟩
  have hjoin : (target.join cs).query = (joinQueries target.query query).map read := by
    rw [join_of_authority h.authority, hsplit, hread]
  rw [hjoin, joinQueries_eq_mergeQueries, map_mergeQueries (fun a b => ?_) rfl hempty, List.map_cons, List.map_cons,
    List.map_nil, hfirst, hsecond]
  simp only [read, dropBreaks_append, percentEncode_append]

/-- A URL that is joined from a target and a request without dot segments differs from the target in its path and its
query only, and these are the two paths with one slash between them and the two queries with an ampersand, encoded where
the rules for paths and queries ask for it. -/
theorem join_dotless {text request : String} {uri : Http.RequestUri} (hparse : parse text = .ok target)
    (hweb : target.scheme = "http".toList ∨ target.scheme = "https".toList)
    (haccepted : Http.RequestUri.parse? request = some uri) (path : List Char) (query : Option (List Char))
    (hsplit : uri.pathAndQuery = path ++ query.elim [] (List.cons '?')) (hpath : '?' ∉ path) (hback : '\\' ∉ path)
    (hdots : ∀ s ∈ path.splitOn '/', isSingleDot s = false ∧ isDoubleDot s = false) :
    target.join uri.pathAndQuery =
      { target with
        path :=
          if path = [] then target.path
          else withoutSlash target.path ++ '/' :: percentEncode inPathSet (dropSlash false path)
        query := mergeQueries [target.query.getD [], percentEncode inSpecialQuerySet (query.getD [])] } := by
  have h : target.IsHeld := isHeld_of_parse hparse hweb
  have hvisible : ∀ c ∈ path ++ query.elim [] (List.cons '?'), 0x20 ≤ c.toNat :=
    fun c hc => Nat.le_of_succ_le (Http.RequestUri.visible_of_parse? haccepted c (hsplit ▸ hc))
  have hcs : ∀ c ∈ path, 0x20 ≤ c.toNat := fun c hc => hvisible c (List.mem_append_left _ hc)
  have hquery : ∀ q, query = some q → ∀ c ∈ q, 0x20 ≤ c.toNat := by
    rintro q rfl c hc
    exact hvisible c (List.mem_append_right _ (List.mem_cons_of_mem _ hc))
  have hparts : splitQuery uri.pathAndQuery = (path, query) := hsplit ▸ splitQuery_append hpath query
  have hjoined : target.join uri.pathAndQuery =
      { target with
        path := (target.join uri.pathAndQuery).path
        query := (target.join uri.pathAndQuery).query } := by
    rw [join_of_authority h.authority]
  rw [hjoined, h.path_join_dotless (congrArg Prod.fst hparts) hcs hback hdots,
    h.query_join (congrArg Prod.snd hparts) (fun q hq => query_encoded_of_parse hparse hweb hq) hquery]

/-- Slashes and question marks past the first are kept, and so is what is encoded already. -/
theorem join_dotless_orders :
    ∃ target uri, parse "http://me@[::1]:8080/api%20v1/?tenant=zoë#top" = .ok target ∧
      Http.RequestUri.parse? "//orders/50%/café/?limit=10?né" = some uri ∧
      (target.join uri.pathAndQuery).text =
        "http://me@[::1]:8080/api%20v1//orders/50%/caf%C3%A9/?tenant=zo%C3%AB&limit=10?n%C3%A9#top" := by
  let target : Url :=
    ⟨"http".toList, some ⟨"me".toList, [], .ipv6 [0, 0, 0, 0, 0, 0, 0, 1], some 8080⟩, "/api%20v1/".toList,
      some "tenant=zo%C3%AB".toList, some "top".toList⟩
  have hparse : parse "http://me@[::1]:8080/api%20v1/?tenant=zoë#top" = .ok target := rfl
  have haccepted : Http.RequestUri.parse? "//orders/50%/café/?limit=10?né" =
      some (.origin "//orders/50%/café/?limit=10?né".toList) := rfl
  refine ⟨target, _, hparse, haccepted, ?_⟩
  rw [join_dotless hparse (.inl rfl) haccepted "//orders/50%/café/".toList (some "limit=10?né".toList) rfl (by decide)
    (by decide) (by decide)]
  decide +kernel

end CredentialGateway.Url
