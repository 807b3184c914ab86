import CredentialGateway.Shutdown.Audience

/-! Who hears the signal to shut down. Those who have a receiver when it is first given hear it once, and nobody else ever
does. As receivers are made one after the other while a process starts, the signal can come before the last of them. -/

namespace CredentialGateway.Audience

variable {a : Audience} {l : Listener} {steps : List Step}

theorem run_append (xs ys : List Step) (a : Audience) : run (xs ++ ys) a = run ys (run xs a) := by
  induction xs generalizing a with
  | nil => rfl
  | cons x xs ih => simpa only [List.cons_append, run] using ih (a.step x)

structure Calm (a : Audience) : Prop where
  shutdown : a.shutdown = .start
  receivers : ∀ l r, a.receiver l = some r → r = ⟨0⟩
  waiting : ∀ l ∈ a.waiting, a.receiver l = none
  distinct : a.waiting.Nodup
  told : a.told = []

structure Due (l : Listener) (a : Audience) : Prop where
  shutdown : a.shutdown = ⟨true, 1⟩
  receiver : a.receiver l = some ⟨0⟩
  waiting : l ∉ a.waiting

/-- The signal has been given, and this one will not take it any more, with or without a receiver. -/
structure Deaf (l : Listener) (a : Audience) : Prop where
  shutdown : a.shutdown = ⟨true, 1⟩
  receiver : ∀ r, a.receiver l = some r → r = ⟨1⟩

theorem calm_start (sweeps : Bool) : (start sweeps).Calm := by
  refine ⟨rfl, fun _ _ h => (nomatch h), fun _ _ => rfl, ?_, rfl⟩
  cases sweeps <;> decide

theorem join_cases (a : Audience) : a.join = a ∨ ∃ l rest, a.waiting = l :: rest ∧
    a.join = { a with
      receiver := fun x => if x = l then some a.shutdown.subscribe else a.receiver x
      waiting := rest } := by
  unfold join
  split
  · exact .inl rfl
  · rename_i l rest hwaiting
    refine .inr ⟨l, rest, hwaiting, ?_⟩
    split <;> rfl

theorem receive_cases (a : Audience) (l : Listener) :
    a.receive l = a ∨ ∃ r, a.receiver l = some r ∧ r.next < a.shutdown.sent ∧
      a.receive l = { a with
        receiver := fun x => if x = l then some ⟨r.next + 1⟩ else a.receiver x
        told := a.told ++ [l] } := by
  unfold receive
  split
  · exact .inl rfl
  · rename_i r hr
    by_cases hnext : r.next < a.shutdown.sent
    · refine .inr ⟨r, hr, hnext, ?_⟩
      rw [Shutdown.receive, if_pos hnext]
      rfl
    · left
      rw [Shutdown.receive, if_neg hnext]
      have hsame : (fun x => if x = l then some r else a.receiver x) = a.receiver := by
        funext x
        split
        · rename_i hx
          rw [hx, hr]
        · rfl
      simp only [hsame, Bool.false_eq_true, if_false]

namespace Calm

theorem step (h : a.Calm) {x : Step} (hx : x ≠ .trigger) : (a.step x).Calm := by
  cases x with
  | trigger => exact absurd rfl hx
  | join =>
    show a.join.Calm
    obtain hsame | ⟨l, rest, hwaiting, hjoin⟩ := a.join_cases
    · rwa [hsame]
    · have hdistinct := h.distinct
      rw [hwaiting, List.nodup_cons] at hdistinct
      rw [hjoin]
      refine ⟨h.shutdown, fun x r hr => ?_, fun x hmem => ?_, hdistinct.2, h.told⟩
      · dsimp only at hr
        split at hr
        · rw [h.shutdown] at hr
          exact (Option.some.inj hr).symm
        · exact h.receivers x r hr
      · have hne : x ≠ l := fun heq => hdistinct.1 (heq ▸ hmem)
        have hnone := h.waiting x (hwaiting ▸ List.mem_cons_of_mem l hmem)
        simpa only [hne, if_false] using hnone
  | receive l =>
    show (a.receive l).Calm
    obtain hsame | ⟨r, -, hnext, -⟩ := a.receive_cases l
    · rwa [hsame]
    · rw [h.shutdown] at hnext
      exact absurd hnext (Nat.not_lt_zero _)

theorem run (h : a.Calm) (hsteps : .trigger ∉ steps) : (Audience.run steps a).Calm := by
  induction steps generalizing a with
  | nil => exact h
  | cons x xs ih =>
    have hx : x ≠ .trigger := fun heq => hsteps (heq ▸ List.mem_cons_self)
    exact ih (h.step hx) fun hmem => hsteps (List.mem_cons_of_mem x hmem)

theorem trigger_due (h : a.Calm) (hl : (a.receiver l).isSome) : Due l (a.step .trigger) := by
  obtain ⟨r, hr⟩ := Option.isSome_iff_exists.mp hl
  obtain rfl := h.receivers l r hr
  refine ⟨?_, hr, fun hmem => ?_⟩
  · show a.shutdown.trigger = _
    rw [h.shutdown]
    rfl
  · have hnone : a.receiver l = none := h.waiting l hmem
    rw [hr] at hnone
    cases hnone

theorem trigger_deaf (h : a.Calm) (hl : ¬ (a.receiver l).isSome) : Deaf l (a.step .trigger) := by
  refine ⟨?_, fun r hr => ?_⟩
  · show a.shutdown.trigger = _
    rw [h.shutdown]
    rfl
  · have hsome : a.receiver l = some r := hr
    rw [hsome] at hl
    exact absurd rfl hl

end Calm

theorem Deaf.step (h : Deaf l a) (x : Step) : Deaf l (a.step x) ∧ (a.step x).told.count l = a.told.count l := by
  cases x with
  | trigger =>
    refine ⟨⟨?_, h.receiver⟩, rfl⟩
    show a.shutdown.trigger = _
    rw [h.shutdown]
    rfl
  | join =>
    show Deaf l a.join ∧ a.join.told.count l = _
    obtain hsame | ⟨x, rest, -, hjoin⟩ := a.join_cases
    · rw [hsame]
      exact ⟨h, rfl⟩
    · rw [hjoin]
      -- A receiver that is made now is past the only signal there is.
      refine ⟨⟨h.shutdown, fun r hr => ?_⟩, rfl⟩
      dsimp only at hr
      split at hr
      · rw [h.shutdown] at hr
        exact (Option.some.inj hr).symm
      · exact h.receiver r hr
  | receive x =>
    show Deaf l (a.receive x) ∧ (a.receive x).told.count l = _
    obtain hsame | ⟨r, hr, hnext, hreceive⟩ := a.receive_cases x
    · rw [hsame]
      exact ⟨h, rfl⟩
    · have hne : l ≠ x := by
        rintro rfl
        rw [h.receiver r hr, h.shutdown] at hnext
        exact absurd hnext (Nat.lt_irrefl 1)
      rw [hreceive]
      refine ⟨⟨h.shutdown, fun r' hr' => h.receiver r' ?_⟩, ?_⟩
      · simpa only [hne, if_false] using hr'
      · simp [hne.symm]

theorem Deaf.run (h : Deaf l a) (steps : List Step) : (Audience.run steps a).told.count l = a.told.count l := by
  induction steps generalizing a with
  | nil => rfl
  | cons x xs ih =>
    obtain ⟨hdeaf, hcount⟩ := h.step x
    exact (ih hdeaf).trans hcount

theorem Due.receive (h : Due l a) : Deaf l (a.step (.receive l)) ∧
    (a.step (.receive l)).told.count l = a.told.count l + 1 := by
  show Deaf l (a.receive l) ∧ (a.receive l).told.count l = _
  have hreceive : a.receive l = { a with
      receiver := fun x => if x = l then some ⟨1⟩ else a.receiver x
      told := a.told ++ [l] } := by
    simp only [Audience.receive, h.receiver, h.shutdown]
    rfl
  rw [hreceive]
  refine ⟨⟨h.shutdown, fun r hr => ?_⟩, by simp⟩
  simpa using hr.symm

theorem Due.step (h : Due l a) {x : Step} (hx : x ≠ .receive l) :
    Due l (a.step x) ∧ (a.step x).told.count l = a.told.count l := by
  cases x with
  | trigger =>
    refine ⟨⟨?_, h.receiver, h.waiting⟩, rfl⟩
    show a.shutdown.trigger = _
    rw [h.shutdown]
    rfl
  | join =>
    show Due l a.join ∧ a.join.told.count l = _
    obtain hsame | ⟨x, rest, hwaiting, hjoin⟩ := a.join_cases
    · rw [hsame]
      exact ⟨h, rfl⟩
    · have hmem := h.waiting
      rw [hwaiting, List.mem_cons, not_or] at hmem
      rw [hjoin]
      refine ⟨⟨h.shutdown, ?_, hmem.2⟩, rfl⟩
      simpa only [hmem.1, if_false] using h.receiver
  | receive x =>
    have hne : l ≠ x := fun heq => hx (heq ▸ rfl)
    show Due l (a.receive x) ∧ (a.receive x).told.count l = _
    obtain hsame | ⟨r, -, -, hreceive⟩ := a.receive_cases x
    · rw [hsame]
      exact ⟨h, rfl⟩
    · rw [hreceive]
      refine ⟨⟨h.shutdown, ?_, h.waiting⟩, by simp [hne.symm]⟩
      simpa only [hne, if_false] using h.receiver

theorem Due.run (h : Due l a) (steps : List Step) :
    (Audience.run steps a).told.count l = a.told.count l + if .receive l ∈ steps then 1 else 0 := by
  induction steps generalizing a with
  | nil => rfl
  | cons x xs ih =>
    by_cases hx : x = .receive l
    · subst hx
      obtain ⟨hdeaf, hcount⟩ := h.receive
      rw [if_pos List.mem_cons_self, ← hcount]
      exact hdeaf.run xs
    · obtain ⟨hdue, hcount⟩ := h.step hx
      have hmem : Step.receive l ∈ x :: xs ↔ Step.receive l ∈ xs := by
        rw [List.mem_cons, or_iff_right fun heq => hx heq.symm]
      simp only [hmem, ← hcount]
      exact ih hdue

/-- However often the signal is given, and whatever else the process and the listeners do in between: nobody hears it
before it is given first; then whoever has a receiver by that time hears it once as soon as they look for it, and all
others, though they may get a receiver later, never hear it. -/
theorem heard_once_by_early (sweeps : Bool) (before after : List Step) (hfirst : .trigger ∉ before) (l : Listener) :
    (run before (start sweeps)).told = [] ∧
      (run (before ++ .trigger :: after) (start sweeps)).told.count l =
        if ((run before (start sweeps)).receiver l).isSome ∧ .receive l ∈ after then 1 else 0 := by
  have hcalm : (run before (start sweeps)).Calm := (calm_start sweeps).run hfirst
  have hnone : ((run before (start sweeps)).step .trigger).told.count l = 0 := by
    show (run before (start sweeps)).told.count l = 0
    rw [hcalm.told]
    rfl
  refine ⟨hcalm.told, ?_⟩
  rw [run_append]
  show (run after ((run before (start sweeps)).step .trigger)).told.count l = _
  by_cases hl : ((run before (start sweeps)).receiver l).isSome
  · rw [(hcalm.trigger_due hl).run, hnone, Nat.zero_add]
    simp only [hl, true_and]
  · rw [(hcalm.trigger_deaf hl).run, hnone, if_neg fun h => hl h.1]

/-- The signal comes when the sweeper has its receiver, and once more when the reload loop has one too. The sweeper hears
it once, though it looks twice, and the reload loop never does. -/
theorem heard_once_by_sweeper :
    let s := run ([.join, .join] ++ .trigger ::
      [.receive .sweeper, .join, .trigger, .receive .reloader, .receive .sweeper]) (start true)
    .trigger ∉ [Step.join, .join] ∧ s.told.count .sweeper = 1 ∧ s.told.count .reloader = 0 := by
  intro s
  have hfirst : Step.trigger ∉ [Step.join, .join] := by decide
  have hheard (l : Listener) := (heard_once_by_early true [.join, .join]
    [.receive .sweeper, .join, .trigger, .receive .reloader, .receive .sweeper] hfirst l).2
  exact ⟨hfirst, (hheard .sweeper).trans (if_pos (by decide)), (hheard .reloader).trans (if_neg (by decide))⟩

/-- The signal comes when only the server has its receiver. The others get theirs of it, and however often they look, they
never hear it. -/
theorem unheard_by_late :
    let s := run [.join, .trigger, .join, .join] (start true)
    s.shutdown.triggered = true ∧ (∀ l, (s.receiver l).isSome) ∧
      ∀ l, l ≠ .server → ∀ later, (run later s).told.count l = 0 := by
  intro s
  refine ⟨rfl, fun l => by cases l <;> rfl, fun l hl later => ?_⟩
  have hdeaf : Deaf l s := by
    refine ⟨rfl, fun r hr => ?_⟩
    cases l with
    | server => exact absurd rfl hl
    | sweeper | reloader => exact (Option.some.inj hr).symm
  exact hdeaf.run later

end CredentialGateway.Audience
