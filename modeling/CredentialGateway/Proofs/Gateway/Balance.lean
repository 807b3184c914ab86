import CredentialGateway.Proofs.Gateway.Recorded

/-! The counts of a gateway's acts: an entry is built after each search that misses and for each retry, and there is one retry
for a request whose first attempt is answered 403. -/

namespace CredentialGateway.Gateway

open Http

def Balanced (j : List (State × Act)) : Prop := j.countP isBuild = j.countP (isLookup false) + j.countP isRetry

def isRefused (g : Gateway) (s : State) (r : Request) : Bool :=
  match g.prepare r s with
  | (.error _, _) => false
  | (.ok p, t) => decide (IsForbidden (g.tryOnce p t).1)

variable {g : Gateway} {r : Request} {s : State} {j k : List (State × Act)}

theorem Balanced.append (h : Balanced j) (h' : Balanced k) : Balanced (j ++ k) := by
  unfold Balanced at *
  simp only [List.countP_append]
  omega

theorem balanced_findingActs (g : Gateway) (id : String) (s : State) : Balanced (journal g (findingActs id s) s) := by
  unfold findingActs
  rcases hseek : (s.cachedEntry id).1 with - | e
  · simp [Balanced, journal, isBuild, isLookup, isRetry, hseek]
  · simp [Balanced, journal, isBuild, isLookup, isRetry, hseek]

theorem balanced_preparingActs (g : Gateway) (r : Request) (s : State) :
    Balanced (journal g (preparingActs g r s) s) := by
  unfold preparingActs
  have hwaits : Balanced [(s, .advance (g.arrival r))] := rfl
  refine hwaits.append ?_
  show Balanced (journal g _ (g.awaitBody r s))
  split
  · rfl
  · rw [journal_append]
    refine (balanced_findingActs g _ (g.awaitBody r s)).append ?_
    split <;> rfl

theorem balanced_recoveringActs (g : Gateway) (p : Ready) (result : Except ProxyError Received) (s : State) :
    Balanced (journal g (recoveringActs g p result s) s) := by
  unfold recoveringActs
  split
  · unfold renewingActs
    simp only [journal_append]
    split <;> split <;> rfl
  · rfl

theorem balanced_forwardingActs (g : Gateway) (r : Request) (s : State) :
    Balanced (journal g (forwardingActs g r s) s) := by
  unfold forwardingActs
  rw [journal_append]
  refine (balanced_preparingActs g r s).append ?_
  rcases hprepare : g.prepare r s with ⟨e | p, t⟩
  · rfl
  · rw [after_preparingActs hprepare]
    have hfirst : Balanced [(t, .first p)] := rfl
    exact hfirst.append (balanced_recoveringActs g p _ _)

theorem countP_seeks (j : List (State × Act)) :
    j.countP (isLookup true) + j.countP (isLookup false) = j.countP isSeek := by
  induction j with
  | nil => rfl
  | cons item j ih =>
    obtain ⟨s, a⟩ := item
    have hitem : (if isLookup true (s, a) then 1 else 0) + (if isLookup false (s, a) then 1 else 0) =
        if isSeek (s, a) then 1 else 0 := by
      cases a with
      | seek id =>
        rcases hseek : (s.cachedEntry id).1 with - | e
        · simp [isLookup, isSeek, hseek]
        · simp [isLookup, isSeek, hseek]
      | _ => rfl
    simp only [List.countP_cons]
    omega

theorem countP_journal_eq_zero {q : State × Act → Bool} {acts : List Act} (h : ∀ s, ∀ a ∈ acts, q (s, a) = false)
    (s : State) : (journal g acts s).countP q = 0 := by
  induction acts generalizing s with
  | nil => rfl
  | cons a acts ih =>
    have hhead := h s a List.mem_cons_self
    have hrest := ih (fun s b hb => h s b (List.mem_cons_of_mem a hb)) (a.perform g s)
    rw [journal, List.countP_cons, hrest, hhead]
    rfl

theorem countP_answers_forwardingActs (g : Gateway) (r : Request) (s : State) (method : String) (status : Nat) :
    (journal g (forwardingActs g r s) s).countP (isAnswer method status) = 0 := by
  apply countP_journal_eq_zero
  intro t a ha
  cases a with
  | noteRequest method' status' millis =>
    simp only [forwardingActs, preparingActs, findingActs, recoveringActs, renewingActs] at ha
    grind
  | _ => rfl

theorem countP_retries_forwardingActs (g : Gateway) (r : Request) (s : State) :
    (journal g (forwardingActs g r s) s).countP isRetry = if g.isRefused s r then 1 else 0 := by
  have hpreparing : (journal g (preparingActs g r s) s).countP isRetry = 0 := by
    apply countP_journal_eq_zero
    intro t a ha
    cases a with
    | noteRetry outcome =>
      simp only [preparingActs, findingActs] at ha
      grind
    | _ => rfl
  unfold forwardingActs
  rw [journal_append, List.countP_append, hpreparing, Nat.zero_add]
  unfold isRefused
  rcases g.prepare r s with ⟨e | p, t⟩
  · rfl
  · by_cases hforbidden : IsForbidden (g.tryOnce p t).1
    · simp only [recoveringActs, renewingActs, hforbidden, if_true, decide_true]
      split <;> split <;> rfl
    · simp only [recoveringActs, hforbidden, if_false, decide_false]
      rfl

end CredentialGateway.Gateway
