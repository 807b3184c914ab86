import CredentialGateway.Proofs.Http.HopByHop
import CredentialGateway.Proofs.Unicode.LetterCase

/-! What stripping takes out of headers: the fixed hop-by-hop ones and all that the Connection headers list, in whatever
order they list them. What is left is as it was, and stripping it again takes nothing more. -/

namespace CredentialGateway.Http

namespace HeaderName

def IsRead (n : HeaderName) : Prop := ∃ cs, parse? cs = some n

variable {n : HeaderName} {cs item : List Char}

theorem isTokenChar_toLower (c : Char) : isTokenChar c.toLower = isTokenChar c :=
  Unicode.apply_toLower isTokenChar (by decide +kernel) c

theorem toLower_toLower (c : Char) : c.toLower.toLower = c.toLower := Unicode.apply_toLower Char.toLower (by decide) c

theorem parse?_map_toLower (cs : List Char) : parse? (cs.map Char.toLower) = parse? cs := by
  have hall : (cs.map Char.toLower).all isTokenChar = cs.all isTokenChar := by
    rw [List.all_map]
    exact congrArg cs.all (funext isTokenChar_toLower)
  have hagain : (cs.map Char.toLower).map Char.toLower = cs.map Char.toLower := by
    rw [List.map_map]
    exact List.map_congr_left fun c _ => toLower_toLower c
  simp only [parse?, hall, hagain, List.length_map, ne_eq, List.map_eq_nil_iff]

theorem text_of_parse? (h : parse? cs = some n) : n.text.toList = cs.map Char.toLower := by
  unfold parse? at h
  split at h
  · cases h
    exact String.toList_ofList
  · cases h

theorem parse?_eq_some_iff (hn : n.IsRead) :
    parse? item = some n ↔ item.map Char.toLower = n.text.toList.map Char.toLower := by
  obtain ⟨cs, hcs⟩ := hn
  have hlower : n.text.toList.map Char.toLower = cs.map Char.toLower := by
    rw [text_of_parse? hcs, List.map_map]
    exact List.map_congr_left fun c _ => toLower_toLower c
  rw [hlower]
  constructor
  · intro hitem
    rw [← text_of_parse? hitem, text_of_parse? hcs]
  · intro hsame
    rw [← parse?_map_toLower, hsame, parse?_map_toLower, hcs]

end HeaderName

namespace Headers

variable {h h' : Headers} {n : HeaderName}

def connectionItems (h : Headers) : List (List Char) :=
  ((h.all .connection).filterMap HeaderValue.chars?).flatMap fun cs => (cs.splitOn ',').map Unicode.trim

def Listed (h : Headers) (n : HeaderName) : Prop :=
  ∃ item ∈ h.connectionItems, item.map Char.toLower = n.text.toList.map Char.toLower

instance : Decidable (h.Listed n) := inferInstanceAs (Decidable (∃ item ∈ h.connectionItems, _))

/-- A header with this name concerns one connection only. -/
def IsHopByHop (h : Headers) (n : HeaderName) : Prop := n ∈ hopByHopNames ∨ h.Listed n

instance : Decidable (h.IsHopByHop n) := inferInstanceAs (Decidable (_ ∨ _))

/-- All names have been read from some text, as those of every message have. -/
def IsRead (h : Headers) : Prop := ∀ e ∈ h.entries, e.1.IsRead

theorem connectionNames_eq (h : Headers) : h.connectionNames = h.connectionItems.filterMap HeaderName.parse? := by
  rw [connectionNames, connectionItems, List.filterMap_flatMap]
  refine congrArg (fun f => List.flatMap f _) (funext fun cs => ?_)
  rw [List.filterMap_map]
  rfl

theorem mem_connectionNames_iff_listed (hn : n.IsRead) : n ∈ h.connectionNames ↔ h.Listed n := by
  rw [connectionNames_eq, List.mem_filterMap]
  exact exists_congr fun item => and_congr_right fun _ => HeaderName.parse?_eq_some_iff hn

theorem entries_stripHopByHop (hread : h.IsRead) :
    h.stripHopByHop.entries = h.entries.filter fun e => ¬h.IsHopByHop e.1 := by
  rw [stripHopByHop_eq, eraseAll]
  refine List.filter_congr fun e he => ?_
  have hmem : e.1 ∈ h.connectionNames ++ hopByHopNames ↔ h.IsHopByHop e.1 := by
    rw [List.mem_append, mem_connectionNames_iff_listed (hread e he), IsHopByHop, or_comm]
  rw [Bool.eq_iff_iff, Bool.not_eq_true', ← Bool.not_eq_true, List.contains_iff_mem, hmem, decide_eq_true_iff]

theorem all_stripHopByHop_of_isRead (hread : h.IsRead) (n : HeaderName) :
    h.stripHopByHop.all n = if h.IsHopByHop n then [] else h.all n := by
  have hall := all_filter n (fun m => ¬h.IsHopByHop m) h.entries
  rw [← entries_stripHopByHop hread] at hall
  rw [hall]
  by_cases hn : h.IsHopByHop n <;> simp [hn]

theorem eraseAll_erase {ns : List HeaderName} (hn : n ∈ ns) : (h.erase n).eraseAll ns = h.eraseAll ns := by
  rw [eraseAll, eraseAll, erase, List.filter_filter]
  congr 1
  refine List.filter_congr fun e _ => ?_
  by_cases he : e.1 = n
  · simp [he, hn]
  · simp [he]

theorem eraseAll_congr {ns ms : List HeaderName} (hsame : ∀ n, n ∈ ns ↔ n ∈ ms) : h.eraseAll ns = h.eraseAll ms := by
  rw [eraseAll, eraseAll]
  congr 1
  refine List.filter_congr fun e _ => congrArg not ?_
  rw [Bool.eq_iff_iff, List.contains_iff_mem, List.contains_iff_mem, hsame]

theorem stripHopByHop_congr (hitems : h'.connectionItems.Perm h.connectionItems)
    (hrest : h'.erase .connection = h.erase .connection) : h'.stripHopByHop = h.stripHopByHop := by
  have hconnection (names : List HeaderName) : HeaderName.connection ∈ names ++ hopByHopNames :=
    List.mem_append_right _ (by decide)
  have hnames : ∀ n, n ∈ h'.connectionNames ++ hopByHopNames ↔ n ∈ h.connectionNames ++ hopByHopNames := by
    intro n
    rw [connectionNames_eq, connectionNames_eq]
    exact ((hitems.filterMap _).append_right _).mem_iff
  rw [stripHopByHop_eq, stripHopByHop_eq, ← eraseAll_erase (hconnection _), hrest, eraseAll_erase (hconnection _),
    eraseAll_congr hnames]

theorem connectionNames_stripHopByHop (h : Headers) : h.stripHopByHop.connectionNames = [] := by
  rw [connectionNames, all_stripHopByHop, if_pos (.inl (by decide))]
  rfl

theorem stripHopByHop_stripHopByHop (h : Headers) : h.stripHopByHop.stripHopByHop = h.stripHopByHop := by
  rw [stripHopByHop_eq h.stripHopByHop, connectionNames_stripHopByHop, List.nil_append, stripHopByHop_eq, eraseAll,
    eraseAll, List.filter_filter]
  congr 1
  refine List.filter_congr fun e _ => ?_
  by_cases he : e.1 ∈ hopByHopNames <;> simp [he]

/-- Exactly the hop-by-hop headers go: the fixed ones, and those that an item of a readable Connection value names in any
case. The values of all other names stay as they are and in their order. To strip again changes nothing, and in which
order the Connection values and their items come makes no difference. -/
theorem strips_hopByHop (h : Headers) (hread : h.IsRead) :
    (h.stripHopByHop.entries = h.entries.filter fun e => ¬h.IsHopByHop e.1) ∧
      (∀ n, h.stripHopByHop.all n = if h.IsHopByHop n then [] else h.all n) ∧
      h.stripHopByHop.stripHopByHop = h.stripHopByHop ∧
      ∀ h' : Headers, h'.connectionItems.Perm h.connectionItems → h'.erase .connection = h.erase .connection →
        h'.stripHopByHop = h.stripHopByHop :=
  ⟨entries_stripHopByHop hread, all_stripHopByHop_of_isRead hread, stripHopByHop_stripHopByHop h,
    fun _ hitems hrest => stripHopByHop_congr hitems hrest⟩

def courier (first second : String) : Headers :=
  ⟨[(.connection, ⟨Bytes.ofText first, false⟩), (⟨"x-session"⟩, ⟨Bytes.ofText "1", false⟩),
    (.contentType, ⟨Bytes.ofText "text/plain", false⟩), (.connection, ⟨Bytes.ofText second, false⟩),
    (⟨"keep-alive"⟩, ⟨Bytes.ofText "timeout=5", false⟩), (⟨"x-trace"⟩, ⟨Bytes.ofText "2", false⟩)]⟩

/-- An item may have capitals and blanks, be empty, name Connection itself, or name nothing that is there; a value that
does not read as text names nothing. -/
theorem strips_courier :
    (courier "close, X-Session" " x-session,,Connection").IsRead ∧
      (courier "close, X-Session" " x-session,,Connection").stripHopByHop.all .contentType =
        [⟨Bytes.ofText "text/plain", false⟩] ∧
      (courier "close, X-Session" " x-session,,Connection").stripHopByHop.all ⟨"x-session"⟩ = [] ∧
      (courier "Connection,X-Session" "x-session ,, close").stripHopByHop =
        (courier "close, X-Session" " x-session,,Connection").stripHopByHop ∧
      (courier "x-trace, é" "close").stripHopByHop.all ⟨"x-trace"⟩ = [⟨Bytes.ofText "2", false⟩] := by
  have hread (first second : String) : (courier first second).IsRead := by
    have hnames : ∀ e ∈ (courier first second).entries, HeaderName.parse? e.1.text.toList = some e.1 := by
      simp only [courier, List.forall_mem_cons]
      decide +kernel
    exact fun e he => ⟨e.1.text.toList, hnames e he⟩
  obtain ⟨-, hall, -, horder⟩ := strips_hopByHop (courier "close, X-Session" " x-session,,Connection") (hread _ _)
  obtain ⟨-, hunreadable, -⟩ := strips_hopByHop (courier "x-trace, é" "close") (hread _ _)
  refine ⟨hread _ _, ?_, ?_, horder _ (by decide +kernel) (by decide +kernel), ?_⟩
  · rw [hall, if_neg (by decide +kernel)]
    decide +kernel
  · rw [hall, if_pos (by decide +kernel)]
  · rw [hunreadable, if_neg (by decide +kernel)]
    decide +kernel

end Headers

end CredentialGateway.Http
