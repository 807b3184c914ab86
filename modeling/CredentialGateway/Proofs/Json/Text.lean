import CredentialGateway.Json.Text
import Mathlib.Data.List.Basic

/-! Trees survive being written as JSON and read again, as long as their numbers are integers of 64 bits and they are not
nested too deeply. -/

namespace CredentialGateway.Json

variable {c : Char} {cs rest done : List Char} {d : Datum} {depth steps n : Nat}

theorem skipSpace_cons (hc : isSpace c = false) : skipSpace (c :: cs) = c :: cs := by
  rw [skipSpace, List.dropWhile_cons_of_neg (by simp [hc])]

/-! ### Texts -/

theorem hex4?_controlEscape (hn : n < 0x20) :
    hex4? '0' '0' (Nat.digitChar (n / 16)) (Nat.digitChar (n % 16)) = some n := by
  have hall : ∀ n < 0x20, hex4? '0' '0' (Nat.digitChar (n / 16)) (Nat.digitChar (n % 16)) = some n := by decide
  exact hall n hn

theorem readString_controlEscape (done rest : List Char) (hc : c.toNat < 0x20) :
    readString done (controlEscape c ++ rest) = readString (c :: done) rest := by
  have hescape : controlEscape c ++ rest =
      '\\' :: 'u' :: '0' :: '0' :: Nat.digitChar (c.toNat / 16) :: Nat.digitChar (c.toNat % 16) :: rest := rfl
  have hlow : (decide (c.toNat < 0xd800) || decide (0xe000 ≤ c.toNat)) = true := by
    simp only [Bool.or_eq_true, decide_eq_true_eq]
    omega
  rw [hescape, readString, hex4?_controlEscape hc]
  simp only [hlow, if_true, Char.ofNat_toNat]

theorem readString_plain (done rest : List Char) (hquote : c ≠ '\x22') (hslash : c ≠ '\\') (hc : ¬c.toNat < 0x20) :
    readString done (c :: rest) = readString (c :: done) rest := by
  rw [readString]
  · rw [if_neg hc]
  · exact hquote
  · exact fun _ _ _ _ _ h _ => hslash h
  · exact fun _ _ h _ => hslash h

theorem readString_escaped {e : Char} (done rest : List Char) (hu : e ≠ 'u') (he : escaped? e = some c) :
    readString done ('\\' :: e :: rest) = readString (c :: done) rest := by
  rw [readString]
  · rw [he]
  · rintro _ _ _ _ _ ⟨⟩ rfl
    exact hu rfl

theorem readString_escapeChar (c : Char) (done rest : List Char) :
    readString done (escapeChar c ++ rest) = readString (c :: done) rest := by
  unfold escapeChar
  split_ifs with hquote hslash hback hfeed hline hreturn htab hcontrol
  · exact readString_escaped done rest (by decide) (hquote ▸ rfl)
  · exact readString_escaped done rest (by decide) (hslash ▸ rfl)
  · exact readString_escaped done rest (by decide) (hback ▸ rfl)
  · exact readString_escaped done rest (by decide) (hfeed ▸ rfl)
  · exact readString_escaped done rest (by decide) (hline ▸ rfl)
  · exact readString_escaped done rest (by decide) (hreturn ▸ rfl)
  · exact readString_escaped done rest (by decide) (htab ▸ rfl)
  · exact readString_controlEscape done rest hcontrol
  · exact readString_plain done rest hquote hslash hcontrol

theorem readString_flatMap (done cs rest : List Char) :
    readString done (cs.flatMap escapeChar ++ '\x22' :: rest) = some (String.ofList (done.reverse ++ cs), rest) := by
  induction cs generalizing done with
  | nil => rw [List.flatMap_nil, List.nil_append, readString, List.append_nil]
  | cons c cs ih =>
    rw [List.flatMap_cons, List.append_assoc, readString_escapeChar, ih, List.reverse_cons, List.append_assoc]
    rfl

theorem readString_renderText (s : String) (rest : List Char) :
    ∃ tail, renderText s ++ rest = '\x22' :: tail ∧ readString [] tail = some (s, rest) := by
  refine ⟨s.toList.flatMap escapeChar ++ '\x22' :: rest, ?_, ?_⟩
  · simp [renderText]
  · rw [readString_flatMap, List.reverse_nil, List.nil_append, String.ofList_toList]

/-! ### Numbers -/

def EndsNumber (rest : List Char) : Prop := ∀ c ∈ rest.head?, ¬(c.isDigit ∨ c = '.' ∨ c = 'e' ∨ c = 'E')

theorem EndsNumber.nil : EndsNumber [] := fun _ h => nomatch h

theorem EndsNumber.cons (hc : ¬(c.isDigit ∨ c = '.' ∨ c = 'e' ∨ c = 'E')) : EndsNumber (c :: rest) := by
  intro d hd
  obtain rfl : c = d := by simpa using hd
  exact hc

theorem skipFraction?_of_ends (h : EndsNumber rest) : skipFraction? rest = some rest := by
  unfold skipFraction?
  split
  · exact absurd (.inr (.inl rfl)) (h '.' rfl)
  · exact absurd (.inr (.inl rfl)) (h '.' rfl)
  · rfl

theorem skipExponent?_of_ends (h : EndsNumber rest) : skipExponent? rest = some rest := by
  cases rest with
  | nil => rfl
  | cons c rest =>
    have hc : ¬((decide (c = 'e') || decide (c = 'E')) = true) := by
      simp only [Bool.or_eq_true, decide_eq_true_eq]
      exact fun hexponent => h c rfl (.inr (.inr hexponent))
    rw [skipExponent?.eq_def]
    exact if_neg hc

theorem takeWhile_digits {digits : List Char} (hdigits : ∀ c ∈ digits, c.isDigit = true) (h : EndsNumber rest) :
    (digits ++ rest).takeWhile Char.isDigit = digits := by
  rw [List.takeWhile_append_of_pos hdigits]
  cases rest with
  | nil => simp
  | cons c rest =>
    have hc : ¬c.isDigit = true := fun hdigit => h c rfl (.inl hdigit)
    rw [List.takeWhile_cons_of_neg hc, List.append_nil]

theorem naturalOf_toDigits (n : Nat) : naturalOf (Nat.toDigits 10 n) = n :=
  Nat.ofDigitChars_toDigits (by decide) (by decide)

theorem head?_toDigits (hn : 0 < n) : (Nat.toDigits 10 n).head? ≠ some '0' := by
  induction n using Nat.strongRecOn with
  | ind n ih =>
    by_cases hlt : n < 10
    · have hdigit : ∀ n < 10, 0 < n → Nat.digitChar n ≠ '0' := by decide
      rw [Nat.toDigits_of_lt_base hlt, List.head?_cons]
      exact fun h => hdigit n hlt hn (Option.some.inj h)
    · rw [Nat.toDigits_of_base_le (by decide) (Nat.le_of_not_lt hlt), List.head?_append_of_ne_nil _ Nat.toDigits_ne_nil]
      exact ih (n / 10) (by omega) (by omega)

theorem toDigits_wellFormed (n : Nat) :
    ¬(Nat.toDigits 10 n = [] ∨ (Nat.toDigits 10 n).head? = some '0' ∧ (Nat.toDigits 10 n).length ≠ 1) := by
  rintro (hnil | ⟨hzero, hlength⟩)
  · exact Nat.toDigits_ne_nil hnil
  · rcases Nat.eq_zero_or_pos n with rfl | hn
    · exact hlength rfl
    · exact head?_toDigits hn hzero

def sign (negative : Bool) : List Char := if negative then ['-'] else []

theorem readNumber_digits (n : Nat) (negative : Bool) (h : EndsNumber rest) :
    readNumber (sign negative ++ Nat.toDigits 10 n ++ rest) =
      some (numberDatum negative (Nat.toDigits 10 n) true, rest) := by
  have hdigits : ∀ c ∈ Nat.toDigits 10 n, c.isDigit = true := fun c hc =>
    Nat.isDigit_of_mem_toDigits (by decide) (by decide) hc
  have hnegative : ((sign negative ++ Nat.toDigits 10 n ++ rest).head? == some '-') = negative := by
    cases negative with
    | true => rfl
    | false =>
      have hhead : (Nat.toDigits 10 n ++ rest).head? ≠ some '-' := by
        rw [List.head?_append_of_ne_nil _ Nat.toDigits_ne_nil]
        exact fun hminus => absurd (hdigits '-' (List.mem_of_mem_head? hminus)) (by decide)
      exact beq_eq_false_iff_ne.mpr hhead
  have hunsigned : (if negative then (sign negative ++ Nat.toDigits 10 n ++ rest).drop 1
      else sign negative ++ Nat.toDigits 10 n ++ rest) = Nat.toDigits 10 n ++ rest := by
    cases negative <;> rfl
  simp only [readNumber, hnegative, hunsigned, takeWhile_digits hdigits h, List.drop_left, if_neg (toDigits_wellFormed n),
    skipFraction?_of_ends h, skipExponent?_of_ends h, Option.bind_eq_bind, Option.bind_some, beq_self_eq_true]

def IsWide (n : Int) : Prop := -(Nat.pow 2 63 : Nat) ≤ n ∧ n < (Nat.pow 2 64 : Nat)

theorem numberDatum_natAbs {n : Int} (hn : IsWide n) :
    numberDatum (decide (n < 0)) (Nat.toDigits 10 n.natAbs) true = .integer n := by
  obtain ⟨hlow, hhigh⟩ := hn
  simp only [numberDatum, naturalOf_toDigits]
  by_cases hneg : n < 0
  · have hpos : 0 < n.natAbs := by omega
    have hle : n.natAbs ≤ Nat.pow 2 63 := by omega
    have habs : -(n.natAbs : Int) = n := by omega
    rw [decide_eq_true hneg, decide_eq_true hpos, decide_eq_true hle, habs]
    rfl
  · have hlt : n.natAbs < Nat.pow 2 64 := by omega
    have habs : (n.natAbs : Int) = n := by omega
    rw [decide_eq_false hneg, decide_eq_true hlt, habs]
    rfl

theorem render_integer (n : Int) : render (.integer n) = sign (decide (n < 0)) ++ Nat.toDigits 10 n.natAbs := by
  rw [render]
  cases n with
  | ofNat n =>
    have hrepr : toString (Int.ofNat n) = n.repr := rfl
    rw [hrepr, Nat.toList_repr]
    rfl
  | negSucc n =>
    have hrepr : toString (Int.negSucc n) = "-" ++ (n + 1).repr := rfl
    rw [hrepr, String.toList_append, Nat.toList_repr, decide_eq_true (Int.negSucc_lt_zero n)]
    rfl

theorem exists_render_integer (n : Int) : ∃ c cs, render (.integer n) = c :: cs ∧ (c = '-' ∨ c.isDigit = true) := by
  rw [render_integer]
  by_cases hneg : n < 0
  · rw [decide_eq_true hneg]
    exact ⟨_, _, rfl, .inl rfl⟩
  · rw [decide_eq_false hneg]
    obtain ⟨c, cs, hcons⟩ := List.exists_cons_of_ne_nil (Nat.toDigits_ne_nil (n := n.natAbs) (b := 10))
    have hmem : c ∈ Nat.toDigits 10 n.natAbs := hcons ▸ List.mem_cons_self
    exact ⟨c, cs, hcons, .inr (Nat.isDigit_of_mem_toDigits (by decide) (by decide) hmem)⟩

theorem isSpace_of_number (hc : c = '-' ∨ c.isDigit = true) : isSpace c = false := by
  have hne {e : Char} (he : ¬(e = '-' ∨ e.isDigit = true)) : c ≠ e := fun h => he (h ▸ hc)
  simp only [isSpace, Bool.or_eq_false_iff, decide_eq_false_iff_not]
  exact ⟨⟨⟨hne (by decide), hne (by decide)⟩, hne (by decide)⟩, hne (by decide)⟩

theorem readValue_number (hc : c = '-' ∨ c.isDigit = true) :
    readValue (steps + 1) depth (c :: cs) = readNumber (c :: cs) := by
  have hne {e : Char} (he : ¬(e = '-' ∨ e.isDigit = true)) : c ≠ e := fun h => he (h ▸ hc)
  rw [readValue, skipSpace_cons (isSpace_of_number hc)]
  split
  · exact absurd (List.cons.inj ‹_›).1 (hne (by decide))
  · exact absurd (List.cons.inj ‹_›).1 (hne (by decide))
  · exact absurd (List.cons.inj ‹_›).1 (hne (by decide))
  · exact absurd (List.cons.inj ‹_›).1 (hne (by decide))
  · exact absurd (List.cons.inj ‹_›).1 (hne (by decide))
  · exact absurd (List.cons.inj ‹_›).1 (hne (by decide))
  · rfl

/-! ### Trees -/

/-- The trees that JSON can hold: their numbers are integers of 64 bits, and they are nested in at most so many levels. -/
inductive Writable : Nat → Datum → Prop
  | null {depth : Nat} : Writable depth .null
  | bool {depth : Nat} (b : Bool) : Writable depth (.bool b)
  | integer {depth : Nat} {n : Int} (hn : IsWide n) : Writable depth (.integer n)
  | text {depth : Nat} (s : String) : Writable depth (.text s)
  | list {depth : Nat} {items : List Datum} (hitems : ∀ d ∈ items, Writable depth d) : Writable (depth + 1) (.list items)
  | table {depth : Nat} {fields : List (String × Datum)} (hfields : ∀ f ∈ fields, Writable depth f.2) :
    Writable (depth + 1) (.table fields)

theorem Writable.mono {deeper : Nat} (h : Writable depth d) (hle : depth ≤ deeper) : Writable deeper d := by
  induction h generalizing deeper with
  | null => exact .null
  | bool b => exact .bool b
  | integer hn => exact .integer hn
  | text s => exact .text s
  | list _ ih =>
    obtain ⟨deeper, rfl⟩ : ∃ k, deeper = k + 1 := ⟨deeper - 1, by omega⟩
    exact .list fun d hd => ih d hd (by omega)
  | table _ ih =>
    obtain ⟨deeper, rfl⟩ : ∃ k, deeper = k + 1 := ⟨deeper - 1, by omega⟩
    exact .table fun f hf => ih f hf (by omega)

theorem exists_render (d : Datum) : ∃ c cs, render d = c :: cs ∧ isSpace c = false ∧ c ≠ ']' := by
  rcases d with - | (- | -) | n | - | - | s | items | fields
  case integer =>
    obtain ⟨c, cs, hcons, hc⟩ := exists_render_integer n
    have hne {e : Char} (he : ¬(e = '-' ∨ e.isDigit = true)) : c ≠ e := fun h => he (h ▸ hc)
    exact ⟨c, cs, hcons, isSpace_of_number hc, hne (by decide)⟩
  all_goals exact ⟨_, _, rfl, by decide, by decide⟩

theorem exists_steps (h : 2 * (render d).length ≤ steps) : ∃ k, steps = k + 1 := by
  obtain ⟨c, cs, hcons, -⟩ := exists_render d
  rw [hcons, List.length_cons] at h
  exact ⟨steps - 1, by omega⟩

/-- The written tree is read back, whatever follows, in twice as many steps as it has characters. -/
def IsReadBack (depth : Nat) (d : Datum) : Prop :=
  ∀ steps rest, 2 * (render d).length ≤ steps → EndsNumber rest → readValue steps depth (render d ++ rest) = some (d, rest)

theorem IsReadBack.null : IsReadBack depth .null := by
  intro steps rest hsteps _
  obtain ⟨steps, rfl⟩ := exists_steps hsteps
  rfl

theorem IsReadBack.bool (b : Bool) : IsReadBack depth (.bool b) := by
  intro steps rest hsteps _
  obtain ⟨steps, rfl⟩ := exists_steps hsteps
  cases b <;> rfl

theorem IsReadBack.integer {n : Int} (hn : IsWide n) : IsReadBack depth (.integer n) := by
  intro steps rest hsteps hrest
  obtain ⟨steps, rfl⟩ := exists_steps hsteps
  obtain ⟨c, cs, hcons, hc⟩ := exists_render_integer n
  have hread := readNumber_digits n.natAbs (decide (n < 0)) hrest
  rw [← render_integer, numberDatum_natAbs hn, hcons] at hread
  rw [hcons]
  exact (readValue_number hc).trans hread

theorem IsReadBack.text (s : String) : IsReadBack depth (.text s) := by
  intro steps rest hsteps _
  obtain ⟨steps, rfl⟩ := exists_steps hsteps
  obtain ⟨tail, htail, hread⟩ := readString_renderText s rest
  rw [render, htail, readValue, skipSpace_cons (by decide)]
  simp only [hread, Option.map_some]

theorem exists_renderItems (d : Datum) (items : List Datum) (rest : List Char) :
    ∃ c tail, renderItems (d :: items) ++ rest = c :: tail ∧ isSpace c = false ∧ c ≠ ']' := by
  obtain ⟨c, cs, hcons, hspace, hclose⟩ := exists_render d
  cases items with
  | nil => exact ⟨c, cs ++ rest, by rw [renderItems, hcons, List.cons_append], hspace, hclose⟩
  | cons e items =>
    have hwritten : renderItems (d :: e :: items) = render d ++ ',' :: renderItems (e :: items) := rfl
    rw [hwritten, hcons]
    exact ⟨c, _, rfl, hspace, hclose⟩

theorem readItems_renderItems {items : List Datum} (hitems : ∀ d ∈ items, IsReadBack depth d) (hne : items ≠ [])
    (done : List Datum) (steps : Nat) (rest : List Char) (hsteps : 2 * (renderItems items).length + 1 ≤ steps) :
    readItems steps depth done (renderItems items ++ ']' :: rest) = some (.list (done.reverse ++ items), rest) := by
  induction items generalizing done steps with
  | nil => exact absurd rfl hne
  | cons d items ih =>
    -- The last item is followed by the bracket, any other one by a comma.
    obtain ⟨steps, rfl⟩ : ∃ k, steps = k + 1 := ⟨steps - 1, by omega⟩
    have hd : IsReadBack depth d := hitems d List.mem_cons_self
    rw [readItems]
    cases items with
    | nil =>
      rw [renderItems] at hsteps ⊢
      rw [hd steps (']' :: rest) (by omega) (.cons (by decide))]
      simp [skipSpace_cons (show isSpace ']' = false from rfl)]
    | cons e items =>
      have hwritten : renderItems (d :: e :: items) = render d ++ ',' :: renderItems (e :: items) := rfl
      rw [hwritten, List.length_append, List.length_cons] at hsteps
      rw [hwritten, List.append_assoc, List.cons_append, hd steps _ (by omega) (.cons (by decide))]
      have hrest := ih (fun x hx => hitems x (List.mem_cons_of_mem _ hx)) (List.cons_ne_nil _ _) (d :: done) steps (by omega)
      simp only [Option.bind_eq_bind, Option.bind_some, skipSpace_cons (show isSpace ',' = false from rfl)]
      rw [hrest, List.reverse_cons, List.append_assoc]
      rfl

theorem readValue_items (hspace : isSpace c = false) (hclose : c ≠ ']') :
    readValue (steps + 1) (depth + 1) ('[' :: c :: cs) = readItems steps depth [] (c :: cs) := by
  rw [readValue, skipSpace_cons (by decide)]
  simp only [skipSpace_cons hspace]
  split
  · exact absurd (List.cons.inj ‹_›).1 hclose
  · rfl

theorem IsReadBack.list {items : List Datum} (hitems : ∀ d ∈ items, IsReadBack depth d) :
    IsReadBack (depth + 1) (.list items) := by
  intro steps rest hsteps _
  have hwritten : render (.list items) = '[' :: renderItems items ++ [']'] := rfl
  simp only [hwritten, List.cons_append, List.append_assoc, List.nil_append, List.length_append, List.length_cons,
    List.length_nil] at hsteps ⊢
  obtain ⟨steps, rfl⟩ : ∃ k, steps = k + 1 := ⟨steps - 1, by omega⟩
  cases items with
  | nil => rfl
  | cons d items =>
    have hread := readItems_renderItems hitems (List.cons_ne_nil _ _) [] steps rest (by omega)
    obtain ⟨c, tail, htail, hspace, hclose⟩ := exists_renderItems d items (']' :: rest)
    rw [htail] at hread ⊢
    exact (readValue_items hspace hclose).trans hread

section Field
variable {key : String} {value : List Char} (hkey : readString [] cs = some (key, ':' :: value))
include hkey

theorem readFields_comma (hvalue : readValue steps depth value = some (d, ',' :: rest)) (done : List (String × Datum)) :
    readFields (steps + 1) depth done ('\x22' :: cs) = readFields steps depth ((key, d) :: done) rest := by
  rw [readFields, skipSpace_cons (by decide)]
  simp only [hkey, hvalue, Option.bind_eq_bind, Option.bind_some, skipSpace_cons (show isSpace ':' = false from rfl),
    skipSpace_cons (show isSpace ',' = false from rfl)]

theorem readFields_close (hvalue : readValue steps depth value = some (d, '\x7d' :: rest)) (done : List (String × Datum)) :
    readFields (steps + 1) depth done ('\x22' :: cs) = some (.table (done.reverse ++ [(key, d)]), rest) := by
  rw [readFields, skipSpace_cons (by decide)]
  simp only [hkey, hvalue, Option.bind_eq_bind, Option.bind_some, skipSpace_cons (show isSpace ':' = false from rfl),
    skipSpace_cons (show isSpace '\x7d' = false from rfl), List.reverse_cons]

end Field

theorem readFields_renderFields {fields : List (String × Datum)} (hfields : ∀ f ∈ fields, IsReadBack depth f.2)
    (hne : fields ≠ []) (done : List (String × Datum)) (steps : Nat) (rest : List Char)
    (hsteps : 2 * (renderFields fields).length + 1 ≤ steps) :
    readFields steps depth done (renderFields fields ++ '\x7d' :: rest) = some (.table (done.reverse ++ fields), rest) := by
  induction fields generalizing done steps with
  | nil => exact absurd rfl hne
  | cons f fields ih =>
    -- As for lists, with a key before each value.
    obtain ⟨steps, rfl⟩ : ∃ k, steps = k + 1 := ⟨steps - 1, by omega⟩
    obtain ⟨key, d⟩ := f
    have hd : IsReadBack depth d := hfields (key, d) List.mem_cons_self
    cases fields with
    | nil =>
      have hwritten : renderFields [(key, d)] = renderText key ++ ':' :: render d := rfl
      rw [hwritten, List.length_append, List.length_cons] at hsteps
      obtain ⟨tail, htail, hkey⟩ := readString_renderText key (':' :: (render d ++ '\x7d' :: rest))
      rw [hwritten, List.append_assoc, List.cons_append, htail]
      exact readFields_close hkey (hd steps _ (by omega) (.cons (by decide))) done
    | cons g fields =>
      have hwritten : renderFields ((key, d) :: g :: fields) =
        renderText key ++ ':' :: render d ++ ',' :: renderFields (g :: fields) := rfl
      rw [hwritten, List.length_append, List.length_append, List.length_cons, List.length_cons] at hsteps
      obtain ⟨tail, htail, hkey⟩ := readString_renderText key
        (':' :: (render d ++ ',' :: (renderFields (g :: fields) ++ '\x7d' :: rest)))
      have hrest := ih (fun x hx => hfields x (List.mem_cons_of_mem _ hx)) (List.cons_ne_nil _ _) ((key, d) :: done) steps
        (by omega)
      rw [hwritten, List.append_assoc, List.append_assoc, List.cons_append, List.cons_append, htail,
        readFields_comma hkey (hd steps _ (by omega) (.cons (by decide))), hrest, List.reverse_cons, List.append_assoc]
      rfl

theorem exists_renderFields (f : String × Datum) (fields : List (String × Datum)) (rest : List Char) :
    ∃ tail, renderFields (f :: fields) ++ rest = '\x22' :: tail := by
  obtain ⟨key, d⟩ := f
  cases fields with
  | nil => exact ⟨_, rfl⟩
  | cons g fields => exact ⟨_, rfl⟩

theorem IsReadBack.table {fields : List (String × Datum)} (hfields : ∀ f ∈ fields, IsReadBack depth f.2) :
    IsReadBack (depth + 1) (.table fields) := by
  intro steps rest hsteps _
  have hwritten : render (.table fields) = '\x7b' :: renderFields fields ++ ['\x7d'] := rfl
  simp only [hwritten, List.cons_append, List.append_assoc, List.nil_append, List.length_append, List.length_cons,
    List.length_nil] at hsteps ⊢
  obtain ⟨steps, rfl⟩ : ∃ k, steps = k + 1 := ⟨steps - 1, by omega⟩
  cases fields with
  | nil => rfl
  | cons f fields =>
    have hread := readFields_renderFields hfields (List.cons_ne_nil _ _) [] steps rest (by omega)
    obtain ⟨tail, htail⟩ := exists_renderFields f fields ('\x7d' :: rest)
    rw [htail] at hread ⊢
    rw [readValue, skipSpace_cons (by decide)]
    simp only [skipSpace_cons (show isSpace '\x22' = false from rfl)]
    exact hread

theorem Writable.isReadBack (h : Writable depth d) : IsReadBack depth d := by
  induction h with
  | null => exact .null
  | bool b => exact .bool b
  | integer hn => exact .integer hn
  | text s => exact .text s
  | list _ ih => exact .list ih
  | table _ ih => exact .table ih

theorem parse?_render (h : Writable maxDepth d) : parse? (String.ofList (render d)) = some d := by
  have hread := h.isReadBack (2 * (render d).length + 2) [] (by omega) .nil
  rw [List.append_nil] at hread
  simp only [parse?, String.toList_ofList, hread, Option.bind_eq_bind, Option.bind_some]
  rfl

end CredentialGateway.Json
