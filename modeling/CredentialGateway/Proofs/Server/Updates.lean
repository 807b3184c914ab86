import CredentialGateway.Config.Reload
import CredentialGateway.Proofs.Server.Renewal
import Mathlib.Data.List.Destutter

/-! A server whose configuration file is watched. Writes to the file pass through a filter, which remembers the services
that it takes to be in force, and what it passes on is applied later, between requests. No update is lost on the way, and
none is repeated. -/

namespace CredentialGateway

namespace Server
open Gateway Config

structure Watched where
  filter : ReloadFilter
  passed : List Config
  applied : Nat
  state : State

inductive Step
  | write (file : File)
  | apply
  | meet (e : Event) (other : ∀ services, e ≠ .reload services)

namespace Watched

def start (c : Config) : Watched := ⟨⟨c⟩, [], 0, .start c (.directory (.ofServices c.services))⟩

def pending (w : Watched) : List Config := w.passed.drop w.applied

def step (g : Gateway) : Step → Watched → Watched
  | .write file, w =>
    match w.filter.reload file with
    | (.changed update, filter) => { w with filter, passed := w.passed ++ [update] }
    | (.unchanged, filter) | (.rejected _, filter) => { w with filter }
  | .apply, w =>
    match w.passed[w.applied]? with
    | some update => { w with applied := w.applied + 1, state := w.state.reload update.services }
    | none => w
  | .meet e _, w => { w with state := (react State.entryFor g e w.state).2 }

def run (g : Gateway) : List Step → Watched → Watched
  | [], w => w
  | a :: as, w => run g as (step g a w)

def drain (g : Gateway) (w : Watched) : Watched := run g (List.replicate w.pending.length .apply) w

end Watched

def Step.loaded? : Step → Option Config
  | .write file => (load file).toOption
  | .apply | .meet .. => none

def loads (as : List Step) : List Config := as.filterMap Step.loaded?

theorem metadata_react (g : Gateway) {e : Event} (he : ∀ services, e ≠ .reload services) (s : State) :
    (react State.entryFor g e s).2.metadata = s.metadata := by
  have hforwarded (r : Http.Request) (hr : e.forwarded? = some r) :
      (react State.entryFor g e s).2.metadata = s.metadata :=
    react_of_forward (Q := fun t => t.metadata = s.metadata) (fun _ _ h => h) (fun _ _ h => h) hr (metadata_forward g r s)
  cases e with
  | request fresh r =>
    by_cases hrouted : isRouted (withRequestId fresh r) = true
    · exact hforwarded _ (if_pos hrouted)
    · simp only [react, serveBy, hrouted, Bool.false_eq_true, if_false]
  | dispatch r => exact hforwarded r rfl
  | reload services => exact absurd rfl (he services)
  | advance millis => rfl
  | sweep => rfl

namespace Watched

variable {g : Gateway} {c : Config} {w : Watched}

theorem metadata_reload {s : State} {d : Directory} (h : s.metadata = .directory d) (services : List Service) :
    (s.reload services).metadata = .directory (.ofServices services) := by
  unfold State.reload
  rw [h]
  rfl

theorem step_write_of_same {file : File}
    (h : ∀ x, load file = .ok x → x.services = w.filter.current.services) : step g (.write file) w = w := by
  have hreload : (∃ e, w.filter.reload file = (.rejected e, w.filter)) ∨
      w.filter.reload file = (.unchanged, w.filter) := by
    rcases hload : load file with e | x
    · left
      exact ⟨e, by rw [ReloadFilter.reload, hload]⟩
    · right
      rw [ReloadFilter.reload, hload]
      simp only [ReloadFilter.accept, h x hload, if_true]
  obtain ⟨e, hrejected⟩ | hunchanged := hreload
  · simp only [step, hrejected]
  · simp only [step, hunchanged]

theorem step_write_of_ne {file : File} {x : Config} (hload : load file = .ok x)
    (h : x.services ≠ w.filter.current.services) :
    step g (.write file) w =
      { w with
        filter := ⟨{ w.filter.current with services := x.services }⟩
        passed := w.passed ++ [x] } := by
  have hreload : w.filter.reload file = (.changed x, ⟨{ w.filter.current with services := x.services }⟩) := by
    rw [ReloadFilter.reload, hload]
    simp only [ReloadFilter.accept, h, if_false]
  simp only [step, hreload]

theorem getElem?_applied {update : Config} {rest : List Config} (h : w.pending = update :: rest) :
    w.passed[w.applied]? = some update := by
  have hdrop : w.passed.drop w.applied = update :: rest := h
  rw [← List.head?_drop, hdrop]
  rfl

theorem step_apply {update : Config} {rest : List Config} (h : w.pending = update :: rest) :
    step g .apply w = { w with applied := w.applied + 1, state := w.state.reload update.services } := by
  simp only [step, getElem?_applied h]

theorem step_apply_of_nil (h : w.pending = []) : step g .apply w = w := by
  have hnone : w.passed[w.applied]? = none := List.getElem?_eq_none (List.drop_eq_nil_iff.mp h)
  simp only [step, hnone]

theorem pending_step_apply {update : Config} {rest : List Config} (h : w.pending = update :: rest) :
    (step g .apply w).pending = rest := by
  have hdrop : w.passed.drop w.applied = update :: rest := h
  rw [step_apply h, pending, ← List.tail_drop, hdrop]
  rfl

structure Sound (c : Config) (w : Watched) : Prop where
  filter : w.filter.current.services = (w.passed.getLastD c).services
  applied : w.applied ≤ w.passed.length
  table : w.state.metadata = .directory (.ofServices ((w.passed.take w.applied).getLastD c).services)

theorem sound_start (c : Config) : (start c).Sound c := ⟨rfl, Nat.le_refl _, rfl⟩

theorem Sound.write (h : w.Sound c) (g : Gateway) (file : File) : (step g (.write file) w).Sound c := by
  by_cases hsame : ∀ x, load file = .ok x → x.services = w.filter.current.services
  · rwa [step_write_of_same hsame]
  · obtain ⟨x, hx⟩ := not_forall.mp hsame
    obtain ⟨hload, hne⟩ := Classical.not_imp.mp hx
    rw [step_write_of_ne hload hne]
    refine ⟨?_, ?_, ?_⟩
    · rw [List.getLastD_concat]
    · rw [List.length_append]
      exact Nat.le_add_right_of_le h.applied
    · rw [List.take_append_of_le_length h.applied]
      exact h.table

theorem Sound.apply (h : w.Sound c) (g : Gateway) : (step g .apply w).Sound c := by
  rcases hpending : w.pending with - | ⟨update, rest⟩
  · rwa [step_apply_of_nil hpending]
  · have hnext := getElem?_applied hpending
    obtain ⟨hlt, -⟩ := List.getElem?_eq_some_iff.mp hnext
    rw [step_apply hpending]
    refine ⟨h.filter, hlt, ?_⟩
    rw [List.take_add_one, hnext, Option.toList_some, List.getLastD_concat]
    exact metadata_reload h.table update.services

theorem Sound.step (h : w.Sound c) (g : Gateway) (a : Step) : (step g a w).Sound c := by
  cases a with
  | write file => exact h.write g file
  | apply => exact h.apply g
  | meet e other => exact ⟨h.filter, h.applied, (metadata_react g other w.state).trans h.table⟩

theorem Sound.run (h : w.Sound c) (g : Gateway) (as : List Step) : (run g as w).Sound c := by
  induction as generalizing w with
  | nil => exact h
  | cons a as ih => exact ih (h.step g a)

theorem Sound.drain (h : w.Sound c) (g : Gateway) :
    (w.drain g).state.metadata = .directory (.ofServices (w.passed.getLastD c).services) := by
  unfold Watched.drain
  induction hpending : w.pending generalizing w with
  | nil =>
    have hall : w.passed.length ≤ w.applied := List.drop_eq_nil_iff.mp hpending
    have htable := h.table
    rwa [List.take_of_length_le hall] at htable
  | cons update rest ih =>
    have hrest : (Watched.step g .apply w).pending = rest := pending_step_apply hpending
    have hpassed : (Watched.step g .apply w).passed = w.passed := by rw [step_apply hpending]
    have hdrained := ih (h.apply g) hrest
    rw [hpassed] at hdrained
    exact hdrained

theorem Sound.accept (h : w.Sound c) (x : Config) :
    (w.filter.accept x).1 = if x.services = (w.passed.getLastD c).services then none else some x := by
  rw [← h.filter, ReloadFilter.accept]
  split <;> rfl

theorem Sound.apply_next (h : w.Sound c) (g : Gateway) {update : Config} {rest : List Config}
    (hpending : w.pending = update :: rest) :
    (Watched.step g .apply w).state.cache.entries = [] ∧
      (Watched.step g .apply w).state.metadata = .directory (.ofServices update.services) := by
  rw [step_apply hpending]
  exact ⟨rfl, metadata_reload h.table update.services⟩

/-- What a filter passes on, as far as services go: what is loaded, without repetitions of what is in force. -/
structure Thinned (before : List Service) (loaded more : List Config) (after : List Service) : Prop where
  sublist : more.Sublist loaded
  services : before :: more.map Config.services = (loaded.map Config.services).destutter' (· ≠ ·) before
  last : after = (loaded.map Config.services).getLastD before

theorem Thinned.skip {before after : List Service} {loaded more : List Config} {x : Config}
    (h : Thinned before loaded more after) (hx : x.services = before) : Thinned before (x :: loaded) more after where
  sublist := h.sublist.cons x
  services := by
    rw [List.map_cons, List.destutter'_cons_neg _ (not_not.mpr hx.symm)]
    exact h.services
  last := by
    rw [List.map_cons, List.getLastD_cons, hx]
    exact h.last

theorem Thinned.pass {before after : List Service} {loaded more : List Config} {x : Config}
    (h : Thinned x.services loaded more after) (hx : x.services ≠ before) :
    Thinned before (x :: loaded) (x :: more) after where
  sublist := h.sublist.cons_cons x
  services := by
    rw [List.map_cons, List.map_cons, List.destutter'_cons_pos _ hx.symm, h.services]
  last := by
    rw [List.map_cons, List.getLastD_cons]
    exact h.last

theorem step_of_same {a : Step} (h : ∀ x, a.loaded? = some x → x.services = w.filter.current.services) :
    (step g a w).passed = w.passed ∧ (step g a w).filter = w.filter := by
  cases a with
  | write file =>
    have hsame : step g (.write file) w = w :=
      step_write_of_same fun x hload => h x (by rw [Step.loaded?, hload]; rfl)
    rw [hsame]
    exact ⟨rfl, rfl⟩
  | apply =>
    rcases hpending : w.pending with - | ⟨update, rest⟩
    · rw [step_apply_of_nil hpending]
      exact ⟨rfl, rfl⟩
    · rw [step_apply hpending]
      exact ⟨rfl, rfl⟩
  | meet e other => exact ⟨rfl, rfl⟩

theorem step_of_ne {a : Step} {x : Config} (hloaded : a.loaded? = some x)
    (hne : x.services ≠ w.filter.current.services) :
    (step g a w).passed = w.passed ++ [x] ∧ (step g a w).filter.current.services = x.services := by
  cases a with
  | write file =>
    rcases hload : load file with e | y
    · rw [Step.loaded?, hload] at hloaded
      cases hloaded
    · rw [Step.loaded?, hload] at hloaded
      cases hloaded
      rw [step_write_of_ne hload hne]
      exact ⟨rfl, rfl⟩
  | apply => cases hloaded
  | meet e other => cases hloaded

theorem passed_run (g : Gateway) (as : List Step) (w : Watched) :
    ∃ more, (run g as w).passed = w.passed ++ more ∧
      Thinned w.filter.current.services (loads as) more (run g as w).filter.current.services := by
  induction as generalizing w with
  | nil => exact ⟨[], (List.append_nil _).symm, List.Sublist.refl _, rfl, rfl⟩
  | cons a as ih =>
    obtain ⟨more, hpassed, hthinned⟩ := ih (step g a w)
    rcases hloaded : a.loaded? with - | x
    · have hloads : loads (a :: as) = loads as := List.filterMap_cons_none hloaded
      obtain ⟨hsame, hfilter⟩ := step_of_same (g := g) (w := w) (a := a) fun x hx => nomatch hloaded.symm.trans hx
      rw [hsame] at hpassed
      rw [hfilter] at hthinned
      rw [hloads]
      exact ⟨more, hpassed, hthinned⟩
    · have hloads : loads (a :: as) = x :: loads as := List.filterMap_cons_some hloaded
      rw [hloads]
      by_cases hx : x.services = w.filter.current.services
      · obtain ⟨hsame, hfilter⟩ := step_of_same (g := g) (w := w) (a := a) fun y hy => by
          rwa [← Option.some.inj (hloaded.symm.trans hy)]
        rw [hsame] at hpassed
        rw [hfilter] at hthinned
        exact ⟨more, hpassed, hthinned.skip hx⟩
      · obtain ⟨hpass, hfilter⟩ := step_of_ne (g := g) hloaded hx
        rw [hpass, List.append_assoc] at hpassed
        rw [hfilter] at hthinned
        exact ⟨x :: more, hpassed, hthinned.pass hx⟩

theorem thinned_run (g : Gateway) (c : Config) (as : List Step) :
    Thinned c.services (loads as) (run g as (start c)).passed (run g as (start c)).filter.current.services := by
  obtain ⟨more, hmore, hthinned⟩ := passed_run g as (start c)
  have hpassed : (run g as (start c)).passed = more := hmore
  rw [hpassed]
  exact hthinned

end Watched

open Watched

/-- What is loaded from the watched file reaches the server without loss or repetition, whatever the server meets
meanwhile: the updates that are passed on are the loaded configurations, less each that has the services of the one
before it, and the table of the server is always that of the last update applied. -/
theorem updates_reach_server (network : Network) (c : Config) (as : List Step) :
    let g := Gateway.ofConfig network c
    let w := run g as (Watched.start c)
    let inForce := (w.passed.getLastD c).services
    w.state.metadata = .directory (.ofServices ((w.passed.take w.applied).getLastD c).services) ∧
      (w.drain g).state.metadata = .directory (.ofServices ((loads as).getLastD c).services) ∧
      (w.passed.Sublist (loads as) ∧
        (c :: w.passed).map Config.services = ((c :: loads as).map Config.services).destutter (· ≠ ·) ∧
        ((c :: w.passed).map Config.services).IsChain (· ≠ ·)) ∧
      (∀ x, (w.filter.accept x).1 = if x.services = inForce then none else some x) ∧
      (∀ file, (∀ x, load file = .ok x → x.services = inForce) → step g (.write file) w = w) ∧
      ∀ update rest, w.pending = update :: rest →
        let after := step g .apply w
        after.state.cache.entries = [] ∧ after.state.metadata = .directory (.ofServices update.services) ∧
          after.pending = rest := by
  intro g w inForce
  have hsound : w.Sound c := (sound_start c).run g as
  have hthinned : Thinned c.services (loads as) w.passed w.filter.current.services := thinned_run g c as
  have hservices : (c :: w.passed).map Config.services = ((c :: loads as).map Config.services).destutter (· ≠ ·) :=
    hthinned.services
  have hchain : ((c :: w.passed).map Config.services).IsChain (· ≠ ·) := by
    rw [hservices]
    exact List.isChain_destutter (· ≠ ·) _
  -- The last update that was passed on may be older than the last load, but has its services.
  have hlast : inForce = ((loads as).getLastD c).services := by
    calc inForce = w.filter.current.services := hsound.filter.symm
      _ = ((loads as).map Config.services).getLastD c.services := hthinned.last
      _ = ((loads as).getLastD c).services := List.getLastD_map
  have hdrained : (w.drain g).state.metadata = .directory (.ofServices ((loads as).getLastD c).services) := by
    rw [← hlast]
    exact hsound.drain g
  have hquiet (file : File) (h : ∀ x, load file = .ok x → x.services = inForce) : step g (.write file) w = w :=
    step_write_of_same fun x hload => (h x hload).trans hsound.filter.symm
  refine ⟨hsound.table, hdrained, ⟨hthinned.sublist, hservices, hchain⟩, hsound.accept, hquiet, ?_⟩
  intro update rest hpending after
  obtain ⟨hcache, htable⟩ := hsound.apply_next g hpending
  exact ⟨hcache, htable, pending_step_apply hpending⟩

end Server
end CredentialGateway
