import CredentialGateway.Proofs.Unicode.LowerCase
import CredentialGateway.Routing
import Mathlib.Data.List.DropRight

/-! Which service ids hosts can name. A host gives up its first label, without blanks around it and without its port; a
label in brackets can have any characters but the dot and the closing bracket. -/

namespace CredentialGateway

open Unicode

namespace Resolver

def firstLabel (host : List Char) : List Char := (stripPort (trim host)).takeWhile (· ≠ '.')

def untag (r : Resolver) (label : List Char) : List Char :=
  if r.tag.isPrefixOf label then label.drop r.tag.length else label

def ofLabel? (r : Resolver) (label : List Char) : Option String :=
  if r.untag (lower label) = [] then none else some (String.ofList (r.untag (lower label)))

structure IsLabel (l : List Char) : Prop where
  dotless : '.' ∉ l
  bare : ']' ∉ l ∨ ∀ c ∈ l.head?, c ≠ '[' ∧ isBlank c = false

/-- A host with the given first label. The colon makes sure that no other one is taken for that of a port. -/
def hostOf (l : List Char) : List Char := if ']' ∈ l then l ++ ['.', ':'] else '[' :: (l ++ [']'])

structure Alphabet (p : Char → Prop) : Prop where
  lower : ∀ cs, (∀ c ∈ cs, p c) → ∀ d ∈ lower cs, p d
  mark : ∀ c ∈ "[].:".toList, p c

structure IsOrdinary (r : Resolver) : Prop where
  settled : ∀ c ∈ r.tag, isSettled c = true
  head : ∀ c ∈ r.tag.head?, c = 'r'

/-- An id that hosts over an alphabet can name, behind the tag or without it. -/
structure CanName (r : Resolver) (p : Char → Prop) (key : List Char) : Prop where
  spelt : ∀ c ∈ key, p c
  dotless : '.' ∉ key
  bare : (r.tag ≠ [] ∧ '.' ∉ r.tag ∧ ∀ c ∈ r.tag, p c) ∨ ']' ∉ key ∨ ∀ c ∈ key.head?, c ≠ '[' ∧ isBlank c = false

variable {c d m : Char} {cs l key mid host front port : List Char} {p : Char → Prop} {r : Resolver}

theorem alphabet_any : Alphabet fun _ => True := ⟨fun _ _ _ _ => trivial, fun _ _ => trivial⟩

theorem takeWhile_ne_append (h : m ∉ front) (rest : List Char) : (front ++ m :: rest).takeWhile (· ≠ m) = front := by
  have hfront : ∀ c ∈ front, decide (c ≠ m) = true := fun c hc => decide_eq_true fun heq => h (heq ▸ hc)
  rw [List.takeWhile_append_of_pos hfront, List.takeWhile_cons_of_neg (by simp), List.append_nil]

theorem takeWhile_ne_self (h : m ∉ cs) : cs.takeWhile (· ≠ m) = cs :=
  List.takeWhile_eq_self_iff.mpr fun _ hc => decide_eq_true fun heq => h (heq ▸ hc)

theorem not_mem_takeWhile_ne (m : Char) (cs : List Char) : m ∉ cs.takeWhile (· ≠ m) := fun h => by
  simpa using List.mem_takeWhile_imp h

theorem trim_eq_self (hc : isBlank c = false) (hd : isBlank d = false) : trim (c :: (mid ++ [d])) = c :: (mid ++ [d]) := by
  have hfront : (c :: (mid ++ [d])).dropWhile isBlank = c :: (mid ++ [d]) :=
    List.dropWhile_cons_of_neg (by simp [hc])
  have hback : (d :: (c :: mid).reverse).dropWhile isBlank = d :: (c :: mid).reverse :=
    List.dropWhile_cons_of_neg (by simp [hd])
  rw [trim, trimBy, hfront, ← List.cons_append, List.reverse_concat, hback, List.reverse_cons, List.reverse_reverse]

theorem head?_of_start (h : l <+: cs) (hc : c ∈ l.head?) : c ∈ cs.head? := by
  obtain ⟨rest, rfl⟩ := List.head?_eq_some_iff.mp hc
  obtain ⟨tail, rfl⟩ := h
  rfl

theorem trim_starts (host : List Char) : trim host <+: host.dropWhile isBlank := List.rdropWhile_prefix isBlank _

theorem isBlank_head_trim (h : c ∈ (trim host).head?) : isBlank c = false := by
  have hhead := head?_of_start (trim_starts host) h
  have hnot := List.head?_dropWhile_not isBlank host
  rw [Option.mem_def.mp hhead] at hnot
  exact hnot

theorem stripPort_of_ne (h : '[' ∉ host.head?) :
    stripPort host = if host.contains ':' then ((host.reverse.dropWhile (· ≠ ':')).drop 1).reverse else host := by
  unfold stripPort
  split
  · exact absurd rfl h
  · rfl

theorem stripPort_bracket (rest : List Char) : stripPort ('[' :: rest) = rest.takeWhile (· ≠ ']') := rfl

theorem stripPort_of_colonless (h : '[' ∉ host.head?) (hcolon : ':' ∉ host) : stripPort host = host := by
  rw [stripPort_of_ne h, if_neg (by simpa using hcolon)]

theorem stripPort_append (h : '[' ∉ front.head?) (hport : ':' ∉ port) : stripPort (front ++ ':' :: port) = front := by
  have hhead : '[' ∉ (front ++ ':' :: port).head? := by
    cases front with
    | nil => simp
    | cons c front => exact h
  have hskip : ∀ c ∈ port.reverse, decide (c ≠ ':') = true := fun c hc =>
    decide_eq_true fun hcolon => hport (hcolon ▸ List.mem_reverse.mp hc)
  rw [stripPort_of_ne hhead, if_pos (by simp), List.reverse_append, List.reverse_cons, List.append_assoc,
    List.dropWhile_append_of_pos hskip, List.singleton_append, List.dropWhile_cons_of_neg (by simp), List.drop_one,
    List.tail_cons, List.reverse_reverse]

theorem exists_port (h : '[' ∉ host.head?) (hcolon : ':' ∈ host) : ∃ port, host = stripPort host ++ ':' :: port := by
  obtain ⟨port, front, hsplit, hport⟩ := List.eq_append_cons_of_mem (List.mem_reverse.mpr hcolon)
  have hhost : host = front.reverse ++ ':' :: port.reverse := by
    rw [← List.reverse_reverse host, hsplit, List.reverse_append, List.reverse_cons, List.append_assoc]
    rfl
  have hfront : '[' ∉ front.reverse.head? := fun hopen =>
    h (head?_of_start (hhost ▸ List.prefix_append front.reverse _) hopen)
  refine ⟨port.reverse, ?_⟩
  conv_lhs => rw [hhost]
  rw [hhost, stripPort_append hfront (by simpa using hport)]

theorem stripPort_starts (h : '[' ∉ host.head?) : stripPort host <+: host := by
  by_cases hcolon : ':' ∈ host
  · obtain ⟨port, hport⟩ := exists_port h hcolon
    exact ⟨':' :: port, hport.symm⟩
  · exact ⟨[], by rw [List.append_nil, stripPort_of_colonless h hcolon]⟩

theorem mem_of_mem_trim (h : c ∈ trim host) : c ∈ host :=
  (List.dropWhile_suffix isBlank).mem ((trim_starts host).mem h)

theorem firstLabel_spec (host : List Char) : IsLabel (firstLabel host) ∧ ∀ c ∈ firstLabel host, c ∈ host := by
  have hdotless : '.' ∉ firstLabel host := not_mem_takeWhile_ne '.' _
  by_cases hopen : '[' ∈ (trim host).head?
  · obtain ⟨rest, hrest⟩ := List.head?_eq_some_iff.mp hopen
    have heq : firstLabel host = (rest.takeWhile (· ≠ ']')).takeWhile (· ≠ '.') := by
      rw [firstLabel, hrest, stripPort_bracket]
    refine ⟨⟨hdotless, .inl fun h => ?_⟩, fun c hc => mem_of_mem_trim ?_⟩
    · rw [heq] at h
      exact not_mem_takeWhile_ne ']' rest ((List.takeWhile_prefix _).mem h)
    · rw [heq] at hc
      rw [hrest]
      exact List.mem_cons_of_mem _ ((List.takeWhile_prefix _).mem ((List.takeWhile_prefix _).mem hc))
  · have hstart : firstLabel host <+: trim host := (List.takeWhile_prefix _).trans (stripPort_starts hopen)
    refine ⟨⟨hdotless, .inr fun c hc => ?_⟩, fun c hc => mem_of_mem_trim (hstart.mem hc)⟩
    have hhead := head?_of_start hstart hc
    refine ⟨?_, isBlank_head_trim hhead⟩
    rintro rfl
    exact hopen hhead

theorem firstLabel_hostOf (hl : IsLabel l) (hne : l ≠ []) : firstLabel (hostOf l) = l := by
  unfold hostOf
  split
  · rename_i hclosing
    obtain ⟨c, rest, rfl⟩ := List.exists_cons_of_ne_nil hne
    obtain ⟨hopen, hblank⟩ := hl.bare.resolve_left (not_not_intro hclosing) c rfl
    have htrim : trim (c :: rest ++ ['.', ':']) = c :: rest ++ ['.', ':'] := by
      have hcolon : isBlank ':' = false := by decide
      rw [List.cons_append, List.append_cons]
      exact trim_eq_self hblank hcolon
    have hport : stripPort ((c :: rest ++ ['.']) ++ [':']) = c :: rest ++ ['.'] :=
      stripPort_append (by simpa using hopen) List.not_mem_nil
    rw [List.append_assoc, List.singleton_append] at hport
    rw [firstLabel, htrim, hport, takeWhile_ne_append hl.dotless]
  · rename_i hclosing
    have htrim : trim ('[' :: (l ++ [']'])) = '[' :: (l ++ [']']) := trim_eq_self (by decide) (by decide)
    rw [firstLabel, htrim, stripPort_bracket, takeWhile_ne_append hclosing, takeWhile_ne_self hl.dotless]

theorem spelt_hostOf (hp : Alphabet p) (h : ∀ c ∈ l, p c) : ∀ c ∈ hostOf l, p c := by
  have hmark := hp.mark
  simp only [String.reduceToList, List.mem_cons, List.not_mem_nil, or_false, forall_eq_or_imp, forall_eq] at hmark
  obtain ⟨hopen, hclose, hdot, hcolon⟩ := hmark
  unfold hostOf
  intro c hc
  split at hc
  · simp only [List.mem_append, List.mem_cons, List.not_mem_nil, or_false] at hc
    rcases hc with hc | rfl | rfl
    · exact h c hc
    · exact hdot
    · exact hcolon
  · simp only [List.mem_cons, List.mem_append, List.not_mem_nil, or_false] at hc
    rcases hc with rfl | hc | rfl
    · exact hopen
    · exact h c hc
    · exact hclose

theorem IsLabel.lower (h : IsLabel l) : IsLabel (lower l) := by
  refine ⟨fun hdot => h.dotless (mem_of_mem_lower hdot (by decide)), ?_⟩
  rcases h.bare with hclose | hhead
  · exact .inl fun hmem => hclose (mem_of_mem_lower hmem (by decide))
  · right
    cases l with
    | nil => exact fun c hc => nomatch hc
    | cons a rest =>
      obtain ⟨d, tail, heq, hd⟩ := exists_lower_cons a rest
      rw [heq]
      rintro c hc
      obtain rfl : d = c := by simpa using hc
      rcases hd with rfl | himage
      · exact hhead d rfl
      · simp only [isImage, Bool.and_eq_true, Bool.not_eq_true', Bool.or_eq_false_iff, beq_eq_false_iff_ne] at himage
        exact ⟨himage.2.1.2, himage.1.2⟩

theorem untag_eq_iff : r.untag l = key ↔ r.tag ++ key = l ∨ ¬ r.tag <+: l ∧ l = key := by
  unfold untag
  by_cases htagged : r.tag <+: l
  · obtain ⟨id, rfl⟩ := htagged
    simp only [List.isPrefixOf_iff_prefix, List.prefix_append, if_true, List.drop_left, List.append_cancel_left_eq,
      not_true_eq_false, false_and, or_false]
    exact eq_comm
  · have hother : r.tag ++ key ≠ l := fun heq => htagged ⟨key, heq⟩
    simp [htagged, hother]

theorem serviceId?_eq_ofLabel? (r : Resolver) (host : List Char) :
    r.serviceId? (String.ofList host) = r.ofLabel? (firstLabel host) := by
  rw [serviceId?, String.toList_ofList]
  rfl

theorem serviceId?_eq_some_iff : r.serviceId? (String.ofList host) = some (String.ofList key) ↔
    key ≠ [] ∧ r.untag (lower (firstLabel host)) = key := by
  rw [serviceId?_eq_ofLabel?, ofLabel?]
  split
  · rename_i hnil
    rw [hnil]
    exact ⟨fun h => (nomatch h), fun ⟨hne, heq⟩ => absurd heq.symm hne⟩
  · rename_i hne
    rw [Option.some_inj, String.ofList_inj]
    exact ⟨fun heq => ⟨heq ▸ hne, heq⟩, And.right⟩

theorem serviceId?_empty (r : Resolver) : r.serviceId? (String.ofList []) = none := by
  have hid : (if r.tag.isPrefixOf [] then ([] : List Char).drop r.tag.length else []) = [] := by
    rw [List.drop_nil, ite_self]
  exact if_pos hid

theorem exists_host_iff (hr : r.IsOrdinary) (hp : Alphabet p) (hkey : ∀ c ∈ key, isSettled c = true) (hne : key ≠ []) :
    (∃ host, (∀ c ∈ host, p c) ∧ r.serviceId? (String.ofList host) = some (String.ofList key)) ↔ r.CanName p key := by
  constructor
  · rintro ⟨host, hhost, hid⟩
    obtain ⟨hlabel, hmem⟩ := firstLabel_spec host
    have hlower := hlabel.lower
    have hspelt := hp.lower _ fun c hc => hhost c (hmem c hc)
    obtain ⟨-, huntag⟩ := serviceId?_eq_some_iff.mp hid
    rcases untag_eq_iff.mp huntag with htagged | ⟨-, rfl⟩
    · rw [← htagged] at hlower hspelt
      have hdotless := hlower.dotless
      rw [List.mem_append, not_or] at hdotless
      refine ⟨fun c hc => hspelt c (List.mem_append_right _ hc), hdotless.2, ?_⟩
      by_cases htag : r.tag = []
      · rw [htag] at hlower
        exact .inr hlower.bare
      · exact .inl ⟨htag, hdotless.1, fun c hc => hspelt c (List.mem_append_left _ hc)⟩
    · exact ⟨hspelt, hlower.dotless, .inr hlower.bare⟩
  · intro h
    have hhost {l : List Char} (hl : IsLabel l) (hl' : l ≠ []) (hspelt : ∀ c ∈ l, p c)
        (hsettled : ∀ c ∈ l, isSettled c = true) (huntag : r.untag l = key) :
        ∃ host, (∀ c ∈ host, p c) ∧ r.serviceId? (String.ofList host) = some (String.ofList key) := by
      refine ⟨hostOf l, spelt_hostOf hp hspelt, serviceId?_eq_some_iff.mpr ⟨hne, ?_⟩⟩
      rwa [firstLabel_hostOf hl hl', lower_eq_self hsettled]
    -- A tag that hosts can carry shields the id, and any other tag is none that this id could begin with.
    by_cases htag : r.tag ≠ [] ∧ '.' ∉ r.tag ∧ ∀ c ∈ r.tag, p c
    · obtain ⟨htag, hdotless, hspelt⟩ := htag
      have hlabel : IsLabel (r.tag ++ key) := by
        refine ⟨fun hdot => (List.mem_append.mp hdot).elim hdotless h.dotless, .inr fun c hc => ?_⟩
        rw [List.head?_append_of_ne_nil _ htag] at hc
        rw [hr.head c hc]
        decide
      exact hhost hlabel (List.append_ne_nil_of_left_ne_nil htag key)
        (fun c hc => (List.mem_append.mp hc).elim (hspelt c) (h.spelt c))
        (fun c hc => (List.mem_append.mp hc).elim (hr.settled c) (hkey c)) (untag_eq_iff.mpr (.inl rfl))
    · refine hhost ⟨h.dotless, h.bare.resolve_left htag⟩ hne h.spelt hkey (untag_eq_iff.mpr ?_)
      by_cases hstart : r.tag <+: key
      · have hnil : r.tag = [] := by
          by_contra hne
          exact htag ⟨hne, fun hdot => h.dotless (hstart.mem hdot), fun c hc => h.spelt c (hstart.mem hc)⟩
        exact .inl (by rw [hnil, List.nil_append])
      · exact .inr ⟨hstart, rfl⟩

theorem isOrdinary_ofNames (remoteEnvironment nameSpace : String) : (ofNames remoteEnvironment nameSpace).IsOrdinary := by
  unfold ofNames
  by_cases hnone : remoteEnvironment = ""
  · rw [if_pos hnone]
    exact ⟨fun c hc => (nomatch hc), fun c hc => (nomatch hc)⟩
  · rw [if_neg hnone]
    refine ⟨fun c hc => ?_, fun c hc => ?_⟩
    · have hmarks : ['r', 'e', '-'].all isSettled = true := by decide
      have hmark := List.all_eq_true.mp hmarks
      rcases List.mem_append.mp hc with hc | hc
      · rcases List.mem_append.mp hc with hc | hc
        · exact hmark c hc
        · exact isSettled_of_mem_lower hc
      · exact hmark c (List.mem_cons_of_mem _ (List.mem_cons_of_mem _ hc))
    · exact (Option.some_inj.mp hc).symm

end Resolver
end CredentialGateway
