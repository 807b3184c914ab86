import CredentialGateway.Proofs.Gateway.Balance
import CredentialGateway.Proofs.Metrics
import CredentialGateway.Proofs.Server.Journal

/-! The metrics that a server shows agree with what was done in its run. -/

namespace CredentialGateway

open Http

namespace Gateway

variable {g : Gateway} {p : Metric → Bool}

theorem countP_notes (hsize : ∀ n, p (.cacheSize n) = false) (s : State) (a : Act) :
    (a.notes g s).countP p =
      match a with
      | .seek id => if p (.cacheLookup (s.cachedEntry id).1.isSome) then 1 else 0
      | .settle entry o => (g.fetch? entry o s).toList.countP fun answer => p (Session.noteOf answer)
      | .noteRetry outcome => if p (.forbiddenRetry outcome) then 1 else 0
      | .noteRequest method status millis => if p (.request method status millis) then 1 else 0
      | _ => 0 := by
  cases a with
  | seek id =>
    simp only [Act.notes, List.countP_cons]
    split <;> simp [hsize]
  | build id =>
    simp only [Act.notes]
    split <;> simp [hsize]
  | settle entry o => exact List.countP_map
  | noteRetry outcome => exact List.countP_singleton
  | noteRequest method status millis => exact List.countP_singleton
  | reload services | sweep => simp [Act.notes, hsize]
  | _ => rfl

theorem notes_lookup (g : Gateway) (hit : Bool) (s : State) (a : Act) :
    (a.notes g s).countP (· == .cacheLookup hit) = if isLookup hit (s, a) then 1 else 0 := by
  rw [countP_notes fun _ => rfl]
  cases a with
  | seek id =>
    rcases hseek : (s.cachedEntry id).1 with - | e
    · cases hit <;> simp [isLookup, hseek]
    · cases hit <;> simp [isLookup, hseek]
  | settle entry o =>
    simp only [isLookup]
    cases g.fetch? entry o s <;> rfl
  | _ => rfl

theorem notes_fetch (g : Gateway) (success : Bool) (s : State) (a : Act) :
    (a.notes g s).countP (· == .tokenFetch success) = if isFetch g success (s, a) then 1 else 0 := by
  rw [countP_notes fun _ => rfl]
  cases a with
  | settle entry o =>
    rcases hfetch : g.fetch? entry o s with - | answer
    · simp [isFetch, hfetch]
    · simp [isFetch, hfetch, Session.noteOf]
  | _ => rfl

theorem notes_request (g : Gateway) (method : String) (status : Nat) (s : State) (a : Act) :
    (a.notes g s).countP (Metrics.isRequest method status) = if isAnswer method status (s, a) then 1 else 0 := by
  rw [countP_notes fun _ => rfl]
  cases a with
  | settle entry o =>
    simp only [isAnswer]
    cases g.fetch? entry o s <;> rfl
  | _ => rfl

theorem retries_after (g : Gateway) (acts : List Act) (s : State) :
    let retries (s : State) := s.metrics.countP (· == .forbiddenRetry .success) +
      s.metrics.countP (· == .forbiddenRetry .forbidden) + s.metrics.countP (· == .forbiddenRetry .error)
    retries (after g acts s) = retries s + (journal g acts s).countP isRetry := by
  intro retries
  apply count_after
  intro s a
  have houtcome (outcome : RetryOutcome) := countP_notes (g := g) (p := (· == .forbiddenRetry outcome)) (fun _ => rfl) s a
  simp only [retries, metrics_perform, List.countP_append, houtcome]
  cases a with
  | noteRetry outcome =>
    simp only [isRetry]
    cases outcome <;> simp <;> omega
  | settle entry o =>
    simp only [isRetry]
    cases g.fetch? entry o s <;> simp [Session.noteOf]
  | _ => simp [isRetry]

end Gateway

namespace Server
open Gateway

/-- The method of a request that gets to the handler, and the status of what is returned for it. -/
def Event.answer? (g : Gateway) (s : State) : Event → Option (String × Nat)
  | .request fresh r =>
    if isRouted (withRequestId fresh r) then some (r.method.token, (serve g fresh r s).1.status) else none
  | .dispatch _ | .reload _ | .advance _ | .sweep => none

def collect {α : Type} (g : Gateway) (f : State → Event → Option α) : List Event → State → List α
  | [], _ => []
  | e :: es, s => (f s e).toList ++ collect g f es (react State.entryFor g e s).2

def answered (g : Gateway) (es : List Event) (s : State) : List (String × Nat) :=
  collect g (fun s e => e.answer? g s) es s

def met (g : Gateway) (es : List Event) (s : State) : List (State × Request) :=
  collect g (fun s e => e.forwarded?.map fun r => (s, r)) es s

variable {g : Gateway} {r : Request} {s : State} {q : State × Act → Bool}

theorem countP_readingActs (hread : ∀ s received, q (s, .read received) = false) (result : Except ProxyError Received)
    (s : State) : (journal g (readingActs result) s).countP q = 0 := by
  cases result with
  | error e => rfl
  | ok received =>
    have hitem : q (s, .read received) = false := hread s received
    simp only [readingActs, journal, List.countP_cons, List.countP_nil, hitem]
    rfl

theorem countP_handlingActs (hread : ∀ s received, q (s, .read received) = false) (r : Request) (s : State) :
    (journal g (handlingActs g r s) s).countP q =
      (journal g (forwardingActs g r s) s).countP q +
        if q ((g.forward r s).2, .noteRequest r.method.token (statusOf (g.forward r s).1) ((g.forward r s).2.now - s.now))
          then 1 else 0 := by
  have hforward := after_forwardingActs g r s
  unfold handlingActs
  rw [journal_append, List.countP_append, hforward, journal, List.countP_cons, countP_readingActs hread, Nat.zero_add]

theorem countP_actsOf {α : Type} {p : α → Bool} {f : State → Event → Option α}
    (hevent : ∀ s e, (journal g (e.acts g s) s).countP q = (f s e).toList.countP p) (es : List Event) (s : State) :
    (journal g (actsOf g es s) s).countP q = (collect g f es s).countP p := by
  induction es generalizing s with
  | nil => rfl
  | cons e es ih =>
    simp only [actsOf, collect]
    rw [journal_append, List.countP_append, List.countP_append, after_acts, hevent, ih]

theorem balanced_acts (g : Gateway) (s : State) (e : Event) : Balanced (journal g (e.acts g s) s) := by
  have hreading (result : Except ProxyError Received) (t : State) : Balanced (journal g (readingActs result) t) := by
    cases result <;> rfl
  cases e with
  | request fresh r =>
    simp only [Event.acts]
    split
    · unfold handlingActs
      rw [journal_append]
      refine (balanced_forwardingActs g _ s).append ?_
      have hnote (t : State) (method : String) (status millis : Nat) :
          Balanced [(t, .noteRequest method status millis)] := rfl
      exact (hnote _ _ _ _).append (hreading _ _)
    · rfl
  | dispatch r =>
    simp only [Event.acts]
    rw [journal_append]
    exact (balanced_forwardingActs g r s).append (hreading _ _)
  | reload services | advance millis | sweep => rfl

theorem balanced_actsOf (g : Gateway) (es : List Event) (s : State) : Balanced (journal g (actsOf g es s) s) := by
  induction es generalizing s with
  | nil => rfl
  | cons e es ih =>
    simp only [actsOf]
    rw [journal_append, after_acts]
    exact (balanced_acts g s e).append (ih _)

theorem countP_retries (g : Gateway) (es : List Event) (s : State) :
    (journal g (actsOf g es s) s).countP isRetry = (met g es s).countP fun x => g.isRefused x.1 x.2 := by
  apply countP_actsOf
  intro s e
  have hmet (r : Request) : ((some r).map fun r => (s, r)).toList.countP (fun x => g.isRefused x.1 x.2) =
      if g.isRefused s r then 1 else 0 := List.countP_singleton
  cases e with
  | request fresh r =>
    by_cases hrouted : isRouted (withRequestId fresh r)
    · simp only [Event.acts, Event.forwarded?, hrouted, if_true]
      rw [countP_handlingActs fun _ _ => rfl, countP_retries_forwardingActs, hmet]
      rfl
    · simp only [Event.acts, Event.forwarded?, hrouted]
      rfl
  | dispatch r =>
    simp only [Event.acts, Event.forwarded?]
    rw [journal_append, List.countP_append, countP_retries_forwardingActs, countP_readingActs fun _ _ => rfl, hmet]
    rfl
  | reload services | advance millis | sweep => rfl

theorem status_propagateRequestId (r : Request) (response : Response) :
    (propagateRequestId r response).status = response.status := by
  unfold propagateRequestId
  split
  · rfl
  · split <;> rfl

theorem status_withoutHeadBody (r : Request) (response : Response) :
    (withoutHeadBody r response).status = response.status := by
  unfold withoutHeadBody
  split <;> rfl

theorem status_serve {fresh : HeaderValue} (s : State) (hrouted : isRouted (withRequestId fresh r)) :
    (serve g fresh r s).1.status = statusOf (g.forward (withRequestId fresh r) s).1 := by
  simp only [serve, serveBy, hrouted, if_true, status_withoutHeadBody, status_propagateRequestId]
  rcases hpair : g.forward (withRequestId fresh r) s with ⟨e | received, t⟩
  · rw [handle_error hpair]
    rfl
  · rw [handle_ok hpair]
    rfl

theorem method_withRequestId (fresh : HeaderValue) (r : Request) : (withRequestId fresh r).method = r.method := by
  unfold withRequestId
  split <;> rfl

theorem countP_answers (g : Gateway) (method : String) (status : Nat) (es : List Event) (s : State) :
    (journal g (actsOf g es s) s).countP (isAnswer method status) = (answered g es s).count (method, status) := by
  apply countP_actsOf
  intro s e
  cases e with
  | request fresh r =>
    by_cases hrouted : isRouted (withRequestId fresh r)
    · simp only [Event.acts, Event.answer?, hrouted, if_true]
      rw [countP_handlingActs fun _ _ => rfl, countP_answers_forwardingActs, Nat.zero_add, method_withRequestId,
        status_serve s hrouted]
      exact List.countP_singleton.symm
    · simp only [Event.acts, Event.answer?, hrouted]
      rfl
  | dispatch r =>
    simp only [Event.acts]
    rw [journal_append, List.countP_append, countP_answers_forwardingActs, countP_readingActs fun _ _ => rfl]
    rfl
  | reload services | advance millis | sweep => rfl

/-- In every run of a server the numbers that are shown agree with what was done. The gauge shows how many entries the cache
has. Searches of the cache are counted as hits or misses, and the metadata were consulted once for each miss and for each
retry. Each answer of a token endpoint is counted as a success or a failure. There was a retry for each request whose
first attempt was answered 403. And each request that got to the handler is counted once, under its method and the status
that was returned for it. -/
theorem metrics_agree (network : Network) (c : Config) (metadata : Metadata) (es : List Event) :
    let g := Gateway.ofConfig network c
    let start := State.start c metadata
    let s := (reactAll State.entryFor g es start).2
    let done := journal g (actsOf g es start) start
    let shown (name label value : String) := s.metrics.number (Metrics.labelled name [(label, value)])
    let hits := shown "proxy_cache_lookups_total" "result" "hit"
    let misses := shown "proxy_cache_lookups_total" "result" "miss"
    let retries := shown "proxy_forbidden_retries_total" "outcome" "success" +
      shown "proxy_forbidden_retries_total" "outcome" "forbidden" + shown "proxy_forbidden_retries_total" "outcome" "error"
    s.metrics.number "proxy_cache_entries" = s.cache.size ∧
      (hits = done.countP (isLookup true) ∧ misses = done.countP (isLookup false) ∧ hits + misses = done.countP isSeek) ∧
      (s.lookups = done.countP isBuild ∧ s.lookups = misses + retries) ∧
      (shown "proxy_token_fetches_total" "outcome" "success" = done.countP (isFetch g true) ∧
        shown "proxy_token_fetches_total" "outcome" "failure" = done.countP (isFetch g false)) ∧
      (retries = (met g es start).countP fun x => g.isRefused x.1 x.2) ∧
      ∀ method status,
        s.metrics.number (Metrics.labelled "proxy_requests_total" [("method", method), ("status", toString status)]) =
          (answered g es start).count (method, status) := by
  intro g start s done shown hits misses retries
  have hs : after g (actsOf g es start) start = s := after_actsOf g es start
  have hlookup (hit : Bool) : s.metrics.countP (· == .cacheLookup hit) = done.countP (isLookup hit) := by
    rw [← hs, recorded_after (notes_lookup g hit)]
    exact Nat.zero_add _
  have hfetch (success : Bool) : s.metrics.countP (· == .tokenFetch success) = done.countP (isFetch g success) := by
    rw [← hs, recorded_after (notes_fetch g success)]
    exact Nat.zero_add _
  have hhits : hits = done.countP (isLookup true) := (Metrics.number_lookups s.metrics true).trans (hlookup true)
  have hmisses : misses = done.countP (isLookup false) := (Metrics.number_lookups s.metrics false).trans (hlookup false)
  have hretries : retries = done.countP isRetry := by
    have houtcome := Metrics.number_retries s.metrics
    have hafter := retries_after g (actsOf g es start) start
    simp only [hs, ← houtcome] at hafter
    exact hafter.trans (Nat.zero_add _)
  have hbuilds : s.lookups = done.countP isBuild := by
    rw [← hs, lookups_after]
    exact Nat.zero_add _
  -- Every lookup of a definition follows a search that missed or comes before a retry.
  have hbalanced : done.countP isBuild = done.countP (isLookup false) + done.countP isRetry :=
    balanced_actsOf g es start
  refine ⟨?_, ⟨hhits, hmisses, ?_⟩, ⟨hbuilds, ?_⟩, ⟨?_, ?_⟩, ?_, fun method status => ?_⟩
  · rw [Metrics.number_entries, ← hs]
    exact entries_after rfl g _
  · rw [hhits, hmisses]
    exact countP_seeks done
  · rw [hbuilds, hmisses, hretries]
    exact hbalanced
  · exact (Metrics.number_fetches s.metrics true).trans (hfetch true)
  · exact (Metrics.number_fetches s.metrics false).trans (hfetch false)
  · rw [hretries]
    exact countP_retries g es start
  · rw [Metrics.number_requests, ← countP_answers, ← hs, recorded_after (notes_request g method status)]
    exact Nat.zero_add _

end Server
end CredentialGateway
