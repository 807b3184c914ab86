import CredentialGateway.Datum
import Mathlib.Data.List.Nodup
import Mathlib.Data.List.Perm.Basic

/-! Edits of trees: at any level, fields are left out, fields under new keys are added, and the order of fields is
changed. A field that stays is found as before, with what was done to it. -/

namespace CredentialGateway

namespace Datum

inductive Step
  | field (key : String)
  | item (index : Nat)

def child? (d : Datum) : Step → Option Datum
  | .field key => d.get? key
  | .item index => d.list?.bind fun items => items[index]?

def at? (d : Datum) : List Step → Option Datum
  | [] => some d
  | s :: path => (d.child? s).bind fun part => part.at? path

theorem field?_eq_none_iff {fields : List (String × Datum)} {key : String} :
    field? fields key = none ↔ ∀ d, (key, d) ∉ fields := by
  simp only [field?, Option.map_eq_none_iff, List.find?_eq_none, List.mem_reverse, beq_iff_eq]
  constructor
  · exact fun h d hd => h (key, d) hd rfl
  · rintro h ⟨k, d⟩ hd rfl
    exact h d hd

theorem field?_eq_some {fields : List (String × Datum)} {key : String} {d : Datum} (hmem : (key, d) ∈ fields)
    (hunique : ∀ other, (key, other) ∈ fields → other = d) : field? fields key = some d := by
  rcases hfound : fields.reverse.find? fun f => f.1 == key with - | ⟨k, other⟩
  · have hne := List.find?_eq_none.mp hfound (key, d) (List.mem_reverse.mpr hmem)
    exact absurd (beq_self_eq_true key) hne
  · have hkey : k = key := by simpa using List.find?_some hfound
    have hother : (k, other) ∈ fields := List.mem_reverse.mp (List.mem_of_find?_eq_some hfound)
    rw [field?, hfound, Option.map_some, hunique other (hkey ▸ hother)]

end Datum

open Datum

/-- What is done to a table: which fields are left out, which are added, and how the fields are arranged then. -/
structure TableEdit where
  omits : String → Bool
  added : List (String × Datum)
  arrange : List (String × Datum) → List (String × Datum)
  arrange_perm : ∀ fields, (arrange fields).Perm fields

namespace TableEdit

def apply (t : TableEdit) (fields : List (String × Datum)) : List (String × Datum) :=
  t.arrange (fields.filter (fun f => !t.omits f.1) ++ t.added)

def keep : TableEdit := ⟨fun _ => false, [], id, fun _ => .refl _⟩

theorem mem_apply {t : TableEdit} {fields : List (String × Datum)} {f : String × Datum} :
    f ∈ t.apply fields ↔ f ∈ fields ∧ t.omits f.1 = false ∨ f ∈ t.added := by
  rw [apply, (t.arrange_perm _).mem_iff, List.mem_append, List.mem_filter, Bool.not_eq_true']

theorem apply_keep (fields : List (String × Datum)) : keep.apply fields = fields := by
  simp [apply, keep]

end TableEdit

/-- An edit of a tree: what is done to the table at the end of each path. -/
def Edit := List Step → TableEdit

namespace Edit

def under (e : Edit) (s : Step) : Edit := fun path => e (s :: path)

def omits (e : Edit) (key : String) : Bool := (e []).omits key

mutual

def apply (e : Edit) : Datum → Datum
  | .list items => .list (applyItems e 0 items)
  | .table fields => .table ((e []).apply (applyFields e fields))
  | d => d

def applyItems (e : Edit) (index : Nat) : List Datum → List Datum
  | [] => []
  | d :: rest => apply (e.under (.item index)) d :: applyItems e (index + 1) rest

def applyFields (e : Edit) : List (String × Datum) → List (String × Datum)
  | [] => []
  | (key, d) :: rest => (key, apply (e.under (.field key)) d) :: applyFields e rest

end

def Fresh (e : Edit) (d : Datum) : Prop :=
  ∀ path fields, d.at? path = some (.table fields) → ∀ f ∈ (e path).added, f.1 ∉ fields.map Prod.fst

variable {e : Edit} {d : Datum} {fields : List (String × Datum)} {key : String}

theorem Fresh.under (h : e.Fresh d) {s : Step} {part : Datum} (hpart : d.child? s = some part) :
    (e.under s).Fresh part := by
  intro path fields hpath
  refine h (s :: path) fields ?_
  rw [at?, hpart]
  exact hpath

theorem applyFields_eq (e : Edit) (fields : List (String × Datum)) :
    applyFields e fields = fields.map fun f => (f.1, apply (e.under (.field f.1)) f.2) := by
  induction fields with
  | nil => rfl
  | cons f rest ih => rw [List.map_cons, ← ih, applyFields]

theorem exists_of_mem_applyItems {index : Nat} {items : List Datum} (h : d ∈ applyItems e index items) :
    ∃ i, ∃ original ∈ items, d = (e.under (.item i)).apply original := by
  induction items generalizing index with
  | nil => cases h
  | cons original rest ih =>
    rw [applyItems, List.mem_cons] at h
    rcases h with rfl | hrest
    · exact ⟨index, original, List.mem_cons_self, rfl⟩
    · obtain ⟨i, other, hother, hd⟩ := ih hrest
      exact ⟨i, other, List.mem_cons_of_mem _ hother, hd⟩

structure Edits (e : Edit) (fields : List (String × Datum)) : Prop where
  nodup : (fields.map Prod.fst).Nodup
  fresh : e.Fresh (.table fields)

def fieldsOf (e : Edit) (fields : List (String × Datum)) : List (String × Datum) := (e []).apply (applyFields e fields)

theorem apply_table (e : Edit) (fields : List (String × Datum)) : e.apply (.table fields) = .table (e.fieldsOf fields) := by
  rw [apply]
  rfl

namespace Edits

theorem eq_of_mem (h : e.Edits fields) {other : Datum} (hd : (key, d) ∈ fields) (hother : (key, other) ∈ fields) :
    other = d :=
  congrArg Prod.snd (List.inj_on_of_nodup_map h.nodup hother hd rfl)

theorem child (h : e.Edits fields) (hmem : (key, d) ∈ fields) : (e.under (.field key)).Fresh d :=
  h.fresh.under (field?_eq_some hmem fun _ hother => h.eq_of_mem hmem hother)

theorem field? (h : e.Edits fields) (hmem : (key, d) ∈ fields) :
    Datum.field? (e.fieldsOf fields) key = if e.omits key then none else some ((e.under (.field key)).apply d) := by
  have hkey : key ∈ fields.map Prod.fst := List.mem_map.mpr ⟨(key, d), hmem, rfl⟩
  have hadded (other : Datum) : (key, other) ∉ (e []).added := fun hother =>
    h.fresh [] fields rfl (key, other) hother hkey
  -- Added keys are new, so that the key can only stand where it stood before.
  have hedited (other : Datum) : (key, other) ∈ e.fieldsOf fields ↔
      other = (e.under (.field key)).apply d ∧ e.omits key = false := by
    rw [fieldsOf, TableEdit.mem_apply, or_iff_left (hadded other)]
    refine and_congr_left fun _ => ?_
    rw [applyFields_eq, List.mem_map]
    constructor
    · rintro ⟨⟨k, original⟩, horiginal, heq⟩
      cases heq
      rw [h.eq_of_mem hmem horiginal]
    · rintro rfl
      exact ⟨(key, d), hmem, rfl⟩
  split
  · rename_i homits
    rw [field?_eq_none_iff]
    intro other hother
    have hstays := ((hedited other).mp hother).2
    rw [homits] at hstays
    cases hstays
  · rename_i hstays
    refine field?_eq_some ((hedited _).mpr ⟨rfl, ?_⟩) fun other hother => ((hedited other).mp hother).1
    simpa using hstays

end Edits

def keep : Edit := fun _ => .keep

mutual

theorem apply_keep (d : Datum) : keep.apply d = d := by
  cases d with
  | list items => rw [apply, applyItems_keep 0 items]
  | table fields =>
    rw [apply_table, fieldsOf, applyFields_keep fields]
    exact congrArg Datum.table (TableEdit.apply_keep fields)
  | _ => rfl

theorem applyItems_keep (index : Nat) (items : List Datum) : keep.applyItems index items = items := by
  cases items with
  | nil => rfl
  | cons d rest =>
    rw [applyItems, applyItems_keep (index + 1) rest]
    exact congrArg (· :: rest) (apply_keep d)

theorem applyFields_keep (fields : List (String × Datum)) : keep.applyFields fields = fields := by
  cases fields with
  | nil => rfl
  | cons f rest =>
    rw [applyFields, applyFields_keep rest]
    exact congrArg (fun d => (f.1, d) :: rest) (apply_keep f.2)

end

theorem fresh_keep (d : Datum) : keep.Fresh d := fun _ _ _ _ hadded => nomatch hadded

end Edit
end CredentialGateway
