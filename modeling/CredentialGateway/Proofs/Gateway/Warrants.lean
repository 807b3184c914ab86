import CredentialGateway.Proofs.Gateway.Acts

/-! Why entries are built: right after a search of the cache that missed, or after a first attempt that was answered 403
and whose secrets were dropped. -/

namespace CredentialGateway.Gateway

open Http

/-- What has just been done, the last act first, is a reason to build the entry of a service. -/
def Warranted (g : Gateway) (id : String) : List (State × Act) → Prop
  | (s, .seek other) :: _ => other = id ∧ (s.cachedEntry id).1 = none
  | (_, .drop _) :: (s, .first p) :: _ => p.service = id ∧ IsForbidden (g.tryOnce p s).1
  | _ => False

def Licensed (g : Gateway) : List (State × Act) → List (State × Act) → Prop
  | _, [] => True
  | past, (s, a) :: rest => (∀ id, a = .build id → g.Warranted id past) ∧ Licensed g ((s, a) :: past) rest

variable {g : Gateway} {p q : Ready} {r : Request} {s t u : State} {id : String} {acts : List Act}
  {past more j k before rest : List (State × Act)}

theorem warranted_cases (h : g.Warranted id past) :
    (∃ s earlier, past = (s, .seek id) :: earlier ∧ (s.cachedEntry id).1 = none) ∨
      ∃ s t strategy p earlier, past = (t, .drop strategy) :: (s, .first p) :: earlier ∧ p.service = id ∧
        IsForbidden (g.tryOnce p s).1 := by
  unfold Warranted at h
  split at h
  · obtain ⟨rfl, hmiss⟩ := h
    exact .inl ⟨_, _, rfl, hmiss⟩
  · exact .inr ⟨_, _, _, _, _, rfl, h⟩
  · exact h.elim

theorem Warranted.append (h : g.Warranted id past) (more : List (State × Act)) : g.Warranted id (past ++ more) := by
  obtain ⟨s, earlier, rfl, hmiss⟩ | ⟨s, t, strategy, p, earlier, rfl, hforbidden⟩ := warranted_cases h
  · exact ⟨rfl, hmiss⟩
  · exact hforbidden

theorem Licensed.append (h : g.Licensed past j) (more : List (State × Act)) : g.Licensed (past ++ more) j := by
  induction j generalizing past with
  | nil => trivial
  | cons item j ih => exact ⟨fun id hid => (h.1 id hid).append more, ih h.2⟩

theorem licensed_append : g.Licensed past (j ++ k) ↔ g.Licensed past j ∧ g.Licensed (j.reverse ++ past) k := by
  induction j generalizing past with
  | nil => exact ⟨fun h => ⟨trivial, h⟩, fun h => h.2⟩
  | cons item j ih =>
    have htail : g.Licensed (item :: past) (j ++ k) ↔
        g.Licensed (item :: past) j ∧ g.Licensed (j.reverse ++ item :: past) k := ih
    simp only [List.cons_append, Licensed, htail, List.reverse_cons, List.append_assoc, List.nil_append, and_assoc]

theorem Licensed.then (h : g.Licensed [] j) (h' : g.Licensed [] k) : g.Licensed [] (j ++ k) :=
  licensed_append.mpr ⟨h, h'.append _⟩

theorem Licensed.warranted (h : g.Licensed [] (before ++ (s, .build id) :: rest)) : g.Warranted id before.reverse := by
  obtain ⟨-, hbuild, -⟩ := licensed_append.mp h
  have hwarranted := hbuild id rfl
  rwa [List.append_nil] at hwarranted

theorem licensed_of_no_build (hacts : ∀ id, .build id ∉ acts) (past : List (State × Act)) (s : State) :
    g.Licensed past (journal g acts s) := by
  induction acts generalizing past s with
  | nil => trivial
  | cons a acts ih =>
    refine ⟨fun id hid => ?_, ih (fun id hmem => hacts id (List.mem_cons_of_mem _ hmem)) _ _⟩
    exact absurd (hid ▸ List.mem_cons_self) (hacts id)

theorem licensed_findingActs (g : Gateway) (id : String) (s : State) :
    g.Licensed [] (journal g (findingActs id s) s) := by
  unfold findingActs
  rcases hseek : (s.cachedEntry id).1 with - | e
  · refine ⟨fun _ h => (nomatch h), fun other hother => ?_, trivial⟩
    cases hother
    exact ⟨rfl, hseek⟩
  · exact ⟨fun _ h => (nomatch h), trivial⟩

theorem licensed_preparingActs (g : Gateway) (r : Request) (s : State) :
    g.Licensed [] (journal g (preparingActs g r s) s) := by
  unfold preparingActs
  have hwaits : g.Licensed [] [(s, .advance (g.arrival r))] := ⟨fun _ h => (nomatch h), trivial⟩
  refine hwaits.then ?_
  show g.Licensed [] (journal g _ (g.awaitBody r s))
  split
  · trivial
  · rw [journal_append]
    refine (licensed_findingActs g _ (g.awaitBody r s)).then ?_
    apply licensed_of_no_build
    intro id
    split <;> simp

theorem licensed_renewingActs (hforbidden : IsForbidden (g.tryOnce p s).1) (t : State) :
    g.Licensed [(s, .first p)] (journal g (renewingActs p t) t) := by
  unfold renewingActs
  rw [journal_append]
  refine licensed_append.mpr ⟨⟨fun _ h => (nomatch h), fun id hid => ?_, trivial⟩, ?_⟩
  · cases hid
    exact ⟨rfl, hforbidden⟩
  · apply licensed_of_no_build
    intro id
    split <;> simp

theorem licensed_recoveringActs (g : Gateway) (p : Ready) (s t : State) :
    g.Licensed [(s, .first p)] (journal g (recoveringActs g p (g.tryOnce p s).1 t) t) := by
  unfold recoveringActs
  split
  · rename_i hforbidden
    rw [journal_append]
    refine licensed_append.mpr ⟨licensed_renewingActs hforbidden t, ?_⟩
    apply licensed_of_no_build
    intro id
    split <;> simp
  · trivial

theorem licensed_forwardingActs (g : Gateway) (r : Request) (s : State) :
    g.Licensed [] (journal g (forwardingActs g r s) s) := by
  unfold forwardingActs
  rw [journal_append]
  refine (licensed_preparingActs g r s).then ?_
  rcases hprepare : g.prepare r s with ⟨e | p, t⟩
  · trivial
  · have hafter := after_preparingActs hprepare
    rw [hafter]
    exact ⟨fun _ h => (nomatch h), licensed_recoveringActs g p t _⟩

end CredentialGateway.Gateway
