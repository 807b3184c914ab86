import CredentialGateway.Cache.Traffic
import CredentialGateway.Gateway.Basic
import CredentialGateway.Proofs.Cache.Basic

/-! The steps of a request that nobody comes between are the search of a gateway for an entry, and those of an update
are its reload. -/

namespace CredentialGateway.Cache.Traffic

open Gateway

variable {s : Traffic} {k : Nat}

theorem run_append (as bs : List Step) (s : Traffic) : run (as ++ bs) s = run bs (run as s) := by
  induction as generalizing s with
  | nil => rfl
  | cons a as ih => simpa only [List.cons_append, run] using ih (s.step a)

theorem getElem?_moveTo (s : Traffic) (k : Nat) (stage : Stage) (i : Nat) :
    (s.moveTo k stage).visits[i]? = (s.visits[i]?).map fun v => if k = i then { v with stage } else v := by
  simp only [moveTo, List.getElem?_modify]
  rfl

theorem moveTo_cases {stage : Stage} {i : Nat} {service : String} {at' : Stage}
    (h : (s.moveTo k stage).visits[i]? = some ⟨service, at'⟩) :
    (i = k ∧ at' = stage ∧ ∃ old, s.visits[k]? = some ⟨service, old⟩) ∨ s.visits[i]? = some ⟨service, at'⟩ := by
  rw [getElem?_moveTo] at h
  obtain ⟨v, hv, hmoved⟩ := Option.map_eq_some_iff.mp h
  split at hmoved
  · rename_i hk
    subst hk
    cases hmoved
    exact .inl ⟨rfl, rfl, v.stage, hv⟩
  · exact .inr (hmoved ▸ hv)

abbrev among (c : Cache) (d : Directory) (now : Nat) (visits : List Visit) : Traffic := ⟨c, d, now, visits, []⟩

section
variable {c : Cache} {d : Directory} {now : Nat} {vs : List Visit} {service : String} {old stage : Stage}

theorem visits_last : (vs ++ [⟨service, old⟩])[vs.length]? = some ⟨service, old⟩ := by
  simp

theorem moveTo_last :
    (among c d now (vs ++ [⟨service, old⟩])).moveTo vs.length stage = among c d now (vs ++ [⟨service, stage⟩]) := by
  have hmodify : (vs ++ [⟨service, old⟩] : List Visit).modify vs.length (fun v => { v with stage }) =
      vs ++ [⟨service, stage⟩] := by
    induction vs with
    | nil => rfl
    | cons v vs ih => exact congrArg (v :: ·) ih
  simp only [moveTo, hmodify]

theorem put_last {definition : ServiceDefinition} {x : State} (hcache : x.cache = c) (hnow : x.now = now) :
    let stored := x.storeEntry service definition.targetUrl (.ofCredentials definition.credentials)
    (among c d now (vs ++ [⟨service, .building definition⟩])).put vs.length =
      among stored.2.cache d now (vs ++ [⟨service, .done stored.1⟩]) := by
  subst hcache hnow
  simp only [put, visits_last, State.storeEntry]
  rcases x.cache.put x.now service definition.targetUrl (.ofCredentials definition.credentials) with e | ⟨e, cache⟩
  · exact moveTo_last
  · exact moveTo_last

theorem rebuild_last {x : State} (hdirectory : x.metadata = .directory d) (hcache : x.cache = c) (hnow : x.now = now) :
    ((among c d now (vs ++ [⟨service, .missed⟩])).ask vs.length).put vs.length =
      among (x.rebuildEntry service).2.cache d now (vs ++ [⟨service, .done (x.rebuildEntry service).1⟩]) := by
  simp only [ask, visits_last, State.rebuildEntry, Metadata.lookup_of_directory hdirectory]
  rcases d.lookup service with e | definition
  · simp only [moveTo_last, put, visits_last, hcache]
  · simp only [moveTo_last]
    exact put_last hcache hnow

theorem search_last {x : State} (hdirectory : x.metadata = .directory d) (hcache : x.cache = c) (hnow : x.now = now) :
    ((((among c d now (vs ++ [⟨service, .begun⟩])).look vs.length).evict vs.length).ask vs.length).put vs.length =
      among (x.entryFor service).2.cache d now (vs ++ [⟨service, .done (x.entryFor service).1⟩]) := by
  subst hcache hnow
  cases hfind : x.cache.find? service with
  | none =>
    simp only [look, visits_last, hfind, moveTo_last, evict, State.entryFor, State.cachedEntry, Cache.get]
    exact rebuild_last (x := x.record _) hdirectory rfl rfl
  | some e =>
    cases hexpired : e.isExpired x.cache.ttl x.now with
    | true =>
      simp only [look, visits_last, hfind, hexpired, if_true, moveTo_last, evict, State.entryFor, State.cachedEntry,
        Cache.get]
      exact rebuild_last (x := (x.withCache (x.cache.removeIfSame e)).record _) hdirectory rfl rfl
    | false =>
      simp only [look, visits_last, hfind, hexpired, Bool.false_eq_true, if_false, moveTo_last, evict, ask, put,
        State.entryFor, State.cachedEntry, Cache.get]
      rfl

end

/-- A request that nobody comes between finds or builds the entry that a gateway has for it, and so does one that wants
it built anew; an update that nobody comes between is a reload. -/
theorem run_alone (x : State) {d : Directory} (hdirectory : x.metadata = .directory d) (vs : List Visit)
    (service : String) (services : List Service) :
    let k := vs.length
    run [.visit service, .look k, .evict k, .ask k, .put k] (among x.cache d x.now vs) =
        among (x.entryFor service).2.cache d x.now (vs ++ [⟨service, .done (x.entryFor service).1⟩]) ∧
      run [.rebuild service, .ask k, .put k] (among x.cache d x.now vs) =
        among (x.rebuildEntry service).2.cache d x.now (vs ++ [⟨service, .done (x.rebuildEntry service).1⟩]) ∧
      (x.reload services).metadata = .directory (run [.replace services, .clear] (among x.cache d x.now vs)).directory ∧
      (x.reload services).cache = (run [.replace services, .clear] (among x.cache d x.now vs)).cache := by
  refine ⟨search_last hdirectory rfl rfl, rebuild_last hdirectory rfl rfl, ?_, rfl⟩
  unfold State.reload
  rw [hdirectory]
  rfl

end CredentialGateway.Cache.Traffic
