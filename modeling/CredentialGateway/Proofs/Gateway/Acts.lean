import CredentialGateway.Proofs.Gateway.Course

/-! Requests taken apart into single acts, and the journal of a sequence of acts: each one with the state in which it was
done. -/

namespace CredentialGateway.Gateway

open Http

inductive Act
  | seek (id : String)
  | build (id : String)
  | settle (entry : CacheEntry) (o : Outbound)
  | first (p : Ready)
  | again (p : Ready)
  | drop (strategy : Strategy)
  | noteRetry (outcome : RetryOutcome)
  | noteRequest (method : String) (status millis : Nat)
  | read (received : Received)
  | reload (services : List Service)
  | advance (millis : Nat)
  | sweep

def Act.perform (g : Gateway) (s : State) : Act → State
  | seek id => (s.cachedEntry id).2
  | build id => (s.rebuildEntry id).2
  | settle entry o => (s.onSession (g.authorize entry o)).2
  | first p | again p => (g.tryOnce p s).2
  | drop strategy => { s with toSession := s.toSession.reset strategy }
  | noteRetry outcome => s.record (.forbiddenRetry outcome)
  | noteRequest method status millis => s.record (.request method status millis)
  | read received => (finish received s).2
  | reload services => s.reload services
  | advance millis => s.advance millis
  | sweep => s.evictExpired

def after (g : Gateway) (acts : List Act) (s : State) : State := acts.foldl (Act.perform g) s

def journal (g : Gateway) : List Act → State → List (State × Act)
  | [], _ => []
  | a :: as, s => (s, a) :: journal g as (a.perform g s)

def findingActs (id : String) (s : State) : List Act :=
  match (s.cachedEntry id).1 with
  | some _ => [.seek id]
  | none => [.seek id, .build id]

def preparingActs (g : Gateway) (r : Request) (s : State) : List Act :=
  .advance (g.arrival r) ::
    match g.outboundOf r with
    | .error _ => []
    | .ok (id, o) =>
      findingActs id (g.awaitBody r s) ++
        match ((g.awaitBody r s).entryFor id).1 with
        | .error _ => []
        | .ok entry => [.settle entry o]

def renewingActs (p : Ready) (s : State) : List Act :=
  [.drop p.entry.strategy, .build p.service] ++
    match (State.rebuildEntry p.service { s with toSession := s.toSession.reset p.entry.strategy }).1 with
    | .error _ => []
    | .ok entry => [.settle entry p.outbound]

instance : DecidablePred IsForbidden
  | .error _ => isFalse fun ⟨_, hok, _⟩ => nomatch hok
  | .ok received =>
    if h : received.status = forbidden then isTrue ⟨received, rfl, h⟩
    else isFalse fun ⟨_, hok, hstatus⟩ => h (Except.ok.inj hok ▸ hstatus)

def recoveringActs (g : Gateway) (p : Ready) (result : Except ProxyError Received) (s : State) : List Act :=
  if IsForbidden result then
    renewingActs p s ++
      match g.renew p s with
      | (.error _, _) => [.noteRetry .error]
      | (.ok q, t) => [.again q, .noteRetry (outcomeOf (g.tryOnce q t).1)]
  else []

def forwardingActs (g : Gateway) (r : Request) (s : State) : List Act :=
  preparingActs g r s ++
    match g.prepare r s with
    | (.error _, _) => []
    | (.ok p, t) => .first p :: recoveringActs g p (g.tryOnce p t).1 (g.tryOnce p t).2

variable {g : Gateway} {p q : Ready} {r : Request} {s t u : State} {e : ProxyError} {id : String}

theorem after_append (g : Gateway) (as bs : List Act) (s : State) :
    after g (as ++ bs) s = after g bs (after g as s) := by
  simp only [after, List.foldl_append]

theorem after_keeps {g : Gateway} {P : State → Prop} (hperform : ∀ s (a : Act), P s → P (a.perform g s)) {s : State}
    (h : P s) (acts : List Act) : P (after g acts s) := by
  induction acts generalizing s with
  | nil => exact h
  | cons a acts ih => exact ih (hperform s a h)

theorem journal_append (g : Gateway) (as bs : List Act) (s : State) :
    journal g (as ++ bs) s = journal g as s ++ journal g bs (after g as s) := by
  induction as generalizing s with
  | nil => rfl
  | cons a as ih =>
    have htail := ih (a.perform g s)
    simp only [List.cons_append, journal, htail]
    rfl

theorem mem_journal {a : Act} {acts : List Act} (g : Gateway) (s : State) (h : a ∈ acts) :
    ∃ x, (x, a) ∈ journal g acts s := by
  induction acts generalizing s with
  | nil => cases h
  | cons b acts ih =>
    obtain rfl | htail := List.mem_cons.mp h
    · exact ⟨s, List.mem_cons_self⟩
    · obtain ⟨x, hx⟩ := ih (b.perform g s) htail
      exact ⟨x, List.mem_cons_of_mem _ hx⟩

theorem split_of_journal {a : Act} {acts : List Act} {x : State} {before rest : List (State × Act)}
    (h : journal g acts s = before ++ (x, a) :: rest) :
    ∃ as bs, acts = as ++ a :: bs ∧ x = after g as s ∧ before = journal g as s ∧
      rest = journal g bs (a.perform g x) := by
  induction before generalizing acts s with
  | nil =>
    cases acts with
    | nil => cases h
    | cons b acts =>
      cases h
      exact ⟨[], acts, rfl, rfl, rfl, rfl⟩
  | cons item before ih =>
    cases acts with
    | nil => cases h
    | cons b acts =>
      obtain ⟨hitem, htail⟩ := List.cons.inj h
      obtain ⟨as, bs, hacts, hx, hbefore, hrest⟩ := ih htail
      refine ⟨b :: as, bs, by rw [hacts]; rfl, hx, ?_, hrest⟩
      rw [journal, ← hbefore, hitem]

theorem after_findingActs (g : Gateway) (id : String) (s : State) :
    after g (findingActs id s) s = (s.entryFor id).2 := by
  unfold findingActs State.entryFor
  rcases hseek : s.cachedEntry id with ⟨found | e, t⟩
  · show (State.rebuildEntry id (s.cachedEntry id).2).2 = (State.rebuildEntry id t).2
    rw [hseek]
  · show (s.cachedEntry id).2 = t
    rw [hseek]

theorem perform_settle {o : Outbound} {entry : CacheEntry} {outcome : Except ProxyError Ready}
    (h : g.settle id o entry s = (outcome, t)) : (Act.settle entry o).perform g s = t := by
  rw [state_settle h]
  rfl

theorem after_preparingActs {outcome : Except ProxyError Ready} (h : g.prepare r s = (outcome, t)) :
    after g (preparingActs g r s) s = t := by
  unfold prepare at h
  unfold preparingActs
  show after g _ (g.awaitBody r s) = t
  rcases hout : g.outboundOf r with e | ⟨id, o⟩
  · simp only [hout] at h
    cases h
    rfl
  · simp only [hout] at h ⊢
    have hfind := after_findingActs g id (g.awaitBody r s)
    rw [after_append, hfind]
    rcases hentry : (g.awaitBody r s).entryFor id with ⟨e | entry, u⟩
    · simp only [hentry] at h
      cases h
      rfl
    · simp only [hentry] at h
      exact perform_settle h

theorem after_renewingActs {outcome : Except ProxyError Ready} (h : g.renew p s = (outcome, t)) :
    after g (renewingActs p s) s = t := by
  unfold renew at h
  unfold renewingActs
  rw [after_append]
  show after g _ (State.rebuildEntry p.service { s with toSession := s.toSession.reset p.entry.strategy }).2 = t
  rcases hentry : State.rebuildEntry p.service { s with toSession := s.toSession.reset p.entry.strategy } with
    ⟨e | entry, u⟩
  · simp only [hentry] at h
    cases h
    rfl
  · simp only [hentry] at h
    exact perform_settle h

theorem after_forwardingActs (g : Gateway) (r : Request) (s : State) :
    after g (forwardingActs g r s) s = (g.forward r s).2 := by
  obtain ⟨made, hcourse⟩ := forward_course g r s
  generalize (g.forward r s).1 = last at hcourse
  generalize (g.forward r s).2 = final at hcourse
  unfold forwardingActs
  rw [after_append]
  cases hcourse with
  | refused prepared =>
    rw [after_preparingActs prepared, prepared]
    rfl
  | single prepared first passed =>
    simp only [after_preparingActs prepared, prepared, first, recoveringActs, if_neg passed]
    show (g.tryOnce _ _).2 = _
    rw [first]
  | stranded prepared first forbidden renewed =>
    simp only [after_preparingActs prepared, prepared, first, recoveringActs, if_pos forbidden, renewed]
    show after g (renewingActs _ _ ++ _) (g.tryOnce _ _).2 = _
    rw [first, after_append, after_renewingActs renewed]
    rfl
  | renewed prepared first forbidden renewed second =>
    simp only [after_preparingActs prepared, prepared, first, recoveringActs, if_pos forbidden, renewed, second]
    show after g (renewingActs _ _ ++ _) (g.tryOnce _ _).2 = _
    rw [first, after_append, after_renewingActs renewed]
    show (g.tryOnce _ _).2.record _ = _
    rw [second]

end CredentialGateway.Gateway
