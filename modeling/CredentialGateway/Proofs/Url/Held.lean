import CredentialGateway.Proofs.Url.Path
import CredentialGateway.Url.Parse

/-! What every URL of the web is, however it was written: it has a server, and its path is made of plain segments. -/

namespace CredentialGateway.Url

structure IsHeld (u : Url) : Prop where
  web : u.scheme = "http".toList ∨ u.scheme = "https".toList
  authority : u.authority.isSome
  path : ∃ segments, segments ≠ [] ∧ (∀ s ∈ segments, IsPlain s) ∧ u.path = joinSegments segments

variable {scheme : List Char} {u : Url}

theorem isFileScheme_web (h : scheme = "http".toList ∨ scheme = "https".toList) : isFileScheme scheme = false := by
  rcases h with rfl | rfl <;> decide

theorem isSpecialScheme_web (h : scheme = "http".toList ∨ scheme = "https".toList) : isSpecialScheme scheme = true := by
  rcases h with rfl | rfl <;> decide

theorem readPath_web (h : scheme = "http".toList ∨ scheme = "https".toList) (cs : List Char) :
    readPath scheme cs = joinSegments (descend false [] (splitSegments true (dropSlash true cs))).reverse := by
  simp [readPath, readSegments, pathOfSegments, isFileScheme_web h, isSpecialScheme_web h]

theorem readPath_plain (h : scheme = "http".toList ∨ scheme = "https".toList) (cs : List Char) :
    ∃ segments, segments ≠ [] ∧ (∀ s ∈ segments, IsPlain s) ∧ readPath scheme cs = joinSegments segments := by
  refine ⟨_, ?_, fun s hs => ?_, readPath_web h cs⟩
  · rw [ne_eq, List.reverse_eq_nil_iff]
    exact descend_ne_nil false [] (splitSegments_ne_nil true _)
  · exact isPlain_of_mem_descend (fun t ht => absurd ht List.not_mem_nil) (fun _ ht => chars_of_mem_splitSegments ht)
      (List.mem_reverse.mp hs)

theorem of_bind_ok {α : Type} {P : Prop} {x : Except ParseError α} {f : α → Except ParseError Url}
    (hf : ∀ a, f a = .ok u → P) (h : x >>= f = .ok u) : P := by
  cases x with
  | error e => cases h
  | ok a => exact hf a h

theorem readAuthority_spec {cs : List Char} (h : readAuthority scheme cs = .ok u) :
    u.scheme = scheme ∧ u.authority.isSome ∧
      ∃ tail : Tail, u.path = readPath scheme tail.path ∧ u.query = tail.query.map (readQuery scheme) := by
  have hfinish {authority : Authority} {tail : Tail}
      (h : (.ok (finish scheme (some authority) (readPath scheme tail.path) tail) : Except ParseError Url) = .ok u) :
      u.scheme = scheme ∧ u.authority.isSome ∧
        ∃ tail : Tail, u.path = readPath scheme tail.path ∧ u.query = tail.query.map (readQuery scheme) := by
    cases h
    exact ⟨rfl, rfl, tail, rfl, rfl⟩
  unfold readAuthority at h
  dsimp only at h
  split at h
  · cases h
  · split at h
    · cases h
    · -- The host is read by one of two rules; what follows it is the same.
      split at h <;> refine of_bind_ok (fun host h => ?_) h <;> split at h <;> exact of_bind_ok (fun _ h => hfinish h) h

theorem readFile_scheme {cs : List Char} (h : readFile cs = .ok u) : u.scheme = "file".toList := by
  have hfinish {authority : Option Authority} {path : List Char} {tail : Tail}
      (h : (.ok (finish "file".toList authority path tail) : Except ParseError Url) = .ok u) :
      u.scheme = "file".toList := by
    cases h
    rfl
  unfold readFile at h
  dsimp only at h
  split at h
  · split at h
    · split at h
      · exact hfinish h
      · exact of_bind_ok (fun _ h => hfinish h) h
    · exact hfinish h
  · exact hfinish h

theorem readScheme_web {cs : List Char} (hread : readScheme none scheme cs = .ok u)
    (hweb : u.scheme = "http".toList ∨ u.scheme = "https".toList) :
    u.authority.isSome ∧
      ∃ tail : Tail, u.path = readPath u.scheme tail.path ∧ u.query = tail.query.map (readQuery u.scheme) := by
  unfold readScheme at hread
  split at hread
  · rw [readFile_scheme hread] at hweb
    exact absurd hweb (by decide)
  · split at hread
    · obtain ⟨rfl, hspec⟩ := readAuthority_spec hread
      exact hspec
    · rename_i hspecial
      split at hread
      · obtain ⟨rfl, hspec⟩ := readAuthority_spec hread
        exact hspec
      · cases hread
        exact absurd (isSpecialScheme_web hweb) hspecial

theorem isHeld_of_parse {text : String} (hparse : parse text = .ok u)
    (hweb : u.scheme = "http".toList ∨ u.scheme = "https".toList) : u.IsHeld := by
  rw [parse] at hparse
  split at hparse
  · obtain ⟨hauthority, tail, hpath, -⟩ := readScheme_web hparse hweb
    obtain ⟨segments, hne, hplain, hread⟩ := readPath_plain hweb tail.path
    exact ⟨hweb, hauthority, segments, hne, hplain, hpath.trans hread⟩
  · cases hparse

theorem query_encoded_of_parse {text : String} (hparse : parse text = .ok u)
    (hweb : u.scheme = "http".toList ∨ u.scheme = "https".toList) {q : List Char} (hq : u.query = some q) :
    ∀ c ∈ q, inSpecialQuerySet c = false := by
  rw [parse] at hparse
  split at hparse
  · obtain ⟨-, tail, -, hquery⟩ := readScheme_web hparse hweb
    obtain ⟨written, -, rfl⟩ := Option.map_eq_some_iff.mp (hquery.symm.trans hq)
    intro c hc
    simp only [readQuery, isSpecialScheme_web hweb, if_true] at hc
    exact clean_of_mem_percentEncode (by decide) (by decide) hc
  · cases hparse

end CredentialGateway.Url
