import CredentialGateway.Gateway.Dispatch
import CredentialGateway.Proofs.Gateway.Session

/-! The courses that a request can take through the gateway: refused before it is sent, sent once, sent once and left
behind by a renewal that failed, or sent twice. -/

namespace CredentialGateway.Gateway

open Http

structure Ready where
  service : String
  outbound : Outbound
  entry : CacheEntry
  headers : Headers

def Ready.attempt (p : Ready) (result : Except ProxyError Received) : Attempt :=
  ⟨p.entry.service, callOf p.entry p.outbound p.headers, result⟩

def settle (g : Gateway) (service : String) (o : Outbound) (e : CacheEntry) (s : State) :
    Except ProxyError Ready × State :=
  match s.onSession (g.authorize e o) with
  | (.error err, s) => (.error err, s)
  | (.ok h, s) => (.ok ⟨service, o, e, h⟩, s)

/-- All that comes before the first attempt: host, body, entry and credentials. -/
def prepare (g : Gateway) (r : Request) (s : State) : Except ProxyError Ready × State :=
  let s := g.awaitBody r s
  match g.outboundOf r with
  | .error e => (.error e, s)
  | .ok (service, o) =>
    match s.entryFor service with
    | (.error e, s) => (.error e, s)
    | (.ok entry, s) => g.settle service o entry s

/-- All that comes before the second attempt: what the first one relied on is dropped, the entry is built anew, and
credentials are attached again. -/
def renew (g : Gateway) (p : Ready) (s : State) : Except ProxyError Ready × State :=
  match State.rebuildEntry p.service { s with toSession := s.toSession.reset p.entry.strategy } with
  | (.error e, s) => (.error e, s)
  | (.ok entry, s) => g.settle p.service p.outbound entry s

def tryOnce (g : Gateway) (p : Ready) (s : State) : Except ProxyError Received × State :=
  s.onSession (g.sendAttempt p.entry p.outbound p.headers)

def IsForbidden (result : Except ProxyError Received) : Prop :=
  ∃ received, result = .ok received ∧ received.status = forbidden

/-- The courses of a request, with the attempts made, the result and the state after it. -/
inductive Course (g : Gateway) (r : Request) (s : State) : List Attempt → Except ProxyError Received → State → Prop
  | refused {e : ProxyError} {t : State} (prepared : g.prepare r s = (.error e, t)) : Course g r s [] (.error e) t
  | single {p : Ready} {t u : State} {result : Except ProxyError Received} (prepared : g.prepare r s = (.ok p, t))
      (first : g.tryOnce p t = (result, u)) (passed : ¬ IsForbidden result) : Course g r s [p.attempt result] result u
  | stranded {p : Ready} {t u v : State} {result : Except ProxyError Received} {e : ProxyError}
      (prepared : g.prepare r s = (.ok p, t)) (first : g.tryOnce p t = (result, u)) (forbidden : IsForbidden result)
      (renewed : g.renew p u = (.error e, v)) :
      Course g r s [p.attempt result] (.error e) (v.record (.forbiddenRetry .error))
  | renewed {p q : Ready} {t u v w : State} {result again : Except ProxyError Received}
      (prepared : g.prepare r s = (.ok p, t)) (first : g.tryOnce p t = (result, u)) (forbidden : IsForbidden result)
      (renewed : g.renew p u = (.ok q, v)) (second : g.tryOnce q v = (again, w)) :
      Course g r s [p.attempt result, q.attempt again] again (w.record (.forbiddenRetry (outcomeOf again)))

section
variable {g : Gateway} {p q : Ready} {s t u : State} {e : ProxyError} {result : Except ProxyError Received}

theorem session_authorize (g : Gateway) (e : CacheEntry) (o : Outbound) (s : Session) :
    (g.authorize e o s).2 = s ∨ (g.authorize e o s).2 = (s.setup g.toReach e.strategy o.headers).2 := by
  unfold authorize
  split
  · exact .inl rfl
  · right
    split
    · rename_i heq
      rw [heq]
    · rename_i heq
      rw [heq]

theorem state_settle {service : String} {o : Outbound} {entry : CacheEntry} {outcome : Except ProxyError Ready}
    (h : g.settle service o entry s = (outcome, t)) :
    t = { s with toSession := (g.authorize entry o s.toSession).2 } := by
  unfold settle State.onSession at h
  rcases hauthorize : g.authorize entry o s.toSession with ⟨err | headers, session⟩
  · rw [hauthorize] at h
    cases h
    rfl
  · rw [hauthorize] at h
    cases h
    rfl

theorem prepare_cases {r : Request} {outcome : Except ProxyError Ready} (h : g.prepare r s = (outcome, t)) :
    t = g.awaitBody r s ∨ ∃ service o, g.outboundOf r = .ok (service, o) ∧
      (((g.awaitBody r s).entryFor service).2 = t ∨
        ∃ entry u, (g.awaitBody r s).entryFor service = (.ok entry, u) ∧ g.settle service o entry u = (outcome, t)) := by
  unfold prepare at h
  dsimp only at h
  split at h
  · cases h
    exact .inl rfl
  · rename_i service o hout
    refine .inr ⟨service, o, hout, ?_⟩
    split at h
    · rename_i hentry
      cases h
      rw [hentry]
      exact .inl rfl
    · rename_i entry u hentry
      exact .inr ⟨entry, u, hentry, h⟩

theorem renew_cases {outcome : Except ProxyError Ready} (h : g.renew p s = (outcome, t)) :
    let dropped := { s with toSession := s.toSession.reset p.entry.strategy }
    (State.rebuildEntry p.service dropped).2 = t ∨
      ∃ entry u, State.rebuildEntry p.service dropped = (.ok entry, u) ∧
        g.settle p.service p.outbound entry u = (outcome, t) := by
  intro dropped
  unfold renew at h
  split at h
  · rename_i hentry
    cases h
    exact .inl (congrArg Prod.snd hentry)
  · rename_i entry u hentry
    exact .inr ⟨entry, u, hentry, h⟩

theorem attempt_of_settle_error {service : String} {o : Outbound} {entry : CacheEntry}
    (h : g.settle service o entry s = (.error e, t)) : s.onSession (g.attempt entry o) = (.error e, t) := by
  unfold settle State.onSession at h
  unfold State.onSession attempt
  rcases hauthorize : g.authorize entry o s.toSession with ⟨err | headers, session⟩
  · rw [hauthorize] at h
    cases h
    rfl
  · rw [hauthorize] at h
    cases h

theorem settle_spec {service : String} {o : Outbound} {entry : CacheEntry}
    (h : g.settle service o entry s = (.ok p, t)) :
    (p.service = service ∧ p.outbound = o ∧ p.entry = entry) ∧
      g.authorize entry o s.toSession = (.ok p.headers, t.toSession) ∧ t = { s with toSession := t.toSession } := by
  unfold settle State.onSession at h
  rcases hauthorize : g.authorize entry o s.toSession with ⟨err | headers, session⟩
  · rw [hauthorize] at h
    cases h
  · rw [hauthorize] at h
    cases h
    exact ⟨⟨rfl, rfl, rfl⟩, rfl, rfl⟩

theorem attempt_of_settle {service : String} {o : Outbound} {entry : CacheEntry}
    (h : g.settle service o entry s = (.ok p, t)) : s.onSession (g.attempt entry o) = g.tryOnce p t := by
  unfold settle State.onSession at h
  unfold State.onSession attempt
  rcases hauthorize : g.authorize entry o s.toSession with ⟨err | headers, session⟩
  · rw [hauthorize] at h
    cases h
  · rw [hauthorize] at h
    cases h
    rfl

theorem replay_of_renew_error (h : g.renew p s = (.error e, t)) :
    g.replay p.entry p.outbound (State.rebuildEntry p.service) s = (.error e, t.record (.forbiddenRetry .error)) := by
  unfold renew at h
  unfold replay
  rcases hrebuild : State.rebuildEntry p.service { s with toSession := s.toSession.reset p.entry.strategy } with
    ⟨err | entry, u⟩
  · simp only [hrebuild] at h ⊢
    cases h
    rfl
  · simp only [hrebuild] at h ⊢
    rw [attempt_of_settle_error h]
    rfl

theorem replay_of_renew (h : g.renew p s = (.ok q, t)) (hq : g.tryOnce q t = (result, u)) :
    g.replay p.entry p.outbound (State.rebuildEntry p.service) s =
      (result, u.record (.forbiddenRetry (outcomeOf result))) := by
  unfold renew at h
  unfold replay
  rcases hrebuild : State.rebuildEntry p.service { s with toSession := s.toSession.reset p.entry.strategy } with
    ⟨err | entry, v⟩
  · simp only [hrebuild] at h
    cases h
  · simp only [hrebuild] at h ⊢
    rw [attempt_of_settle h, hq]

variable {r : Request}

theorem prepare_spec (h : g.prepare r s = (.ok p, t)) :
    g.outboundOf r = .ok (p.service, p.outbound) ∧
      ∃ u, (g.awaitBody r s).entryFor p.service = (.ok p.entry, u) ∧
        g.settle p.service p.outbound p.entry u = (.ok p, t) := by
  unfold prepare at h
  dsimp only at h
  split at h
  · cases h
  · rename_i service o hout
    split at h
    · cases h
    · rename_i entry u hentry
      obtain ⟨⟨rfl, rfl, rfl⟩, -⟩ := settle_spec h
      exact ⟨hout, u, hentry, h⟩

theorem renew_spec (h : g.renew p s = (.ok q, t)) :
    (q.service = p.service ∧ q.outbound = p.outbound) ∧
      ∃ u, State.rebuildEntry p.service { s with toSession := s.toSession.reset p.entry.strategy } = (.ok q.entry, u) ∧
        g.settle p.service p.outbound q.entry u = (.ok q, t) := by
  unfold renew at h
  split at h
  · cases h
  · rename_i entry u hentry
    obtain ⟨⟨hservice, hout, rfl⟩, -⟩ := settle_spec h
    exact ⟨⟨hservice, hout⟩, u, hentry, h⟩

theorem forward_of_prepare_error (h : g.prepare r s = (.error e, t)) : g.forward r s = (.error e, t) := by
  unfold prepare at h
  unfold forward forwardBy
  rcases hout : g.outboundOf r with err | ⟨service, o⟩
  · simp only [hout] at h ⊢
    cases h
    rfl
  · simp only [hout] at h ⊢
    rcases hentry : (g.awaitBody r s).entryFor service with ⟨err | entry, u⟩
    · simp only [hentry] at h ⊢
      cases h
      rfl
    · simp only [hentry] at h ⊢
      rw [attempt_of_settle_error h]

theorem forward_of_tryOnce_error (h : g.prepare r s = (.ok p, t)) (hfirst : g.tryOnce p t = (.error e, u)) :
    g.forward r s = (.error e, u) := by
  obtain ⟨hout, v, hentry, hsettle⟩ := prepare_spec h
  unfold forward forwardBy
  simp only [hout, hentry, attempt_of_settle hsettle, hfirst]

theorem forward_of_tryOnce {first : Received} (h : g.prepare r s = (.ok p, t))
    (hfirst : g.tryOnce p t = (.ok first, u)) :
    g.forward r s =
      (Retrier.onResponse g ⟨false⟩ p.entry p.outbound (State.rebuildEntry p.service) first u).2 := by
  obtain ⟨hout, v, hentry, hsettle⟩ := prepare_spec h
  unfold forward forwardBy
  simp only [hout, hentry, attempt_of_settle hsettle, hfirst]

theorem forward_course (g : Gateway) (r : Request) (s : State) :
    ∃ made, Course g r s made (g.forward r s).1 (g.forward r s).2 := by
  rcases hprepare : g.prepare r s with ⟨e | p, t⟩
  · rw [forward_of_prepare_error hprepare]
    exact ⟨_, .refused hprepare⟩
  · rcases hfirst : g.tryOnce p t with ⟨e | first, u⟩
    · -- An error is no answer, so the retrier does not get to see it.
      have hpassed : ¬ IsForbidden (.error e) := fun ⟨_, hok, _⟩ => nomatch hok
      rw [forward_of_tryOnce_error hprepare hfirst]
      exact ⟨_, .single hprepare hfirst hpassed⟩
    · rw [forward_of_tryOnce hprepare hfirst]
      by_cases hstatus : first.status = forbidden
      · have hforbidden : IsForbidden (.ok first) := ⟨first, rfl, hstatus⟩
        simp only [Retrier.onResponse, hstatus, ne_eq, not_true_eq_false, decide_false, Bool.or_self,
          Bool.false_eq_true, if_false]
        rcases hrenew : g.renew p u with ⟨e | q, v⟩
        · rw [replay_of_renew_error hrenew]
          exact ⟨_, .stranded hprepare hfirst hforbidden hrenew⟩
        · rcases hsecond : g.tryOnce q v with ⟨again, w⟩
          rw [replay_of_renew hrenew hsecond]
          exact ⟨_, .renewed hprepare hfirst hforbidden hrenew hsecond⟩
      · have hpassed : ¬ IsForbidden (.ok first) := by
          rintro ⟨received, hok, h⟩
          cases hok
          exact hstatus h
        simp only [Retrier.onResponse, ne_eq, hstatus, not_false_eq_true, decide_true, Bool.or_true, if_true]
        exact ⟨_, .single hprepare hfirst hpassed⟩

theorem attempts_rebuildEntry (id : String) (s : State) : (State.rebuildEntry id s).2.attempts = s.attempts := by
  unfold State.rebuildEntry
  dsimp only
  split
  · rfl
  · unfold State.storeEntry
    split <;> rfl

theorem attempts_entryFor (id : String) (s : State) : (State.entryFor id s).2.attempts = s.attempts := by
  have hcached : (State.cachedEntry id s).2.attempts = s.attempts := by
    unfold State.cachedEntry
    dsimp only
    split <;> rfl
  unfold State.entryFor
  split
  · rename_i heq
    rw [heq] at hcached
    exact hcached
  · rename_i t heq
    rw [heq] at hcached
    exact (attempts_rebuildEntry id t).trans hcached

theorem attempts_settle {service : String} {o : Outbound} {e : CacheEntry} {outcome : Except ProxyError Ready}
    (h : g.settle service o e s = (outcome, t)) : t.attempts = s.attempts := by
  rw [state_settle h]
  obtain hsame | hsetup := session_authorize g e o s.toSession
  · rw [hsame]
  · rw [hsetup]
    exact Session.attempts_setup g.toReach e.strategy o.headers s.toSession

theorem attempts_prepare {outcome : Except ProxyError Ready} (h : g.prepare r s = (outcome, t)) :
    t.attempts = s.attempts := by
  obtain rfl | ⟨service, o, -, hentry⟩ := prepare_cases h
  · rfl
  · have hfound := attempts_entryFor service (g.awaitBody r s)
    obtain rfl | ⟨entry, u, hok, hsettle⟩ := hentry
    · exact hfound
    · rw [hok] at hfound
      exact (attempts_settle hsettle).trans hfound

theorem attempts_renew {outcome : Except ProxyError Ready} (h : g.renew p s = (outcome, t)) :
    t.attempts = s.attempts := by
  have hreset := Session.attempts_reset p.entry.strategy s.toSession
  have hentry := attempts_rebuildEntry p.service { s with toSession := s.toSession.reset p.entry.strategy }
  obtain rfl | ⟨entry, u, hok, hsettle⟩ := renew_cases h
  · exact hentry.trans hreset
  · rw [hok] at hentry
    exact (attempts_settle hsettle).trans (hentry.trans hreset)

theorem attempts_tryOnce {result : Except ProxyError Received} (h : g.tryOnce p s = (result, t)) :
    t.attempts = s.attempts ++ [p.attempt result] := by
  cases h
  rfl

theorem Course.attempts {made : List Attempt} {last : Except ProxyError Received} {after : State}
    (h : Course g r s made last after) : after.attempts = s.attempts ++ made := by
  cases h with
  | refused prepared =>
    rw [List.append_nil]
    exact attempts_prepare prepared
  | single prepared first _ => rw [attempts_tryOnce first, attempts_prepare prepared]
  | @stranded p t u v result e prepared first _ renewed =>
    have hv : v.attempts = s.attempts ++ [p.attempt result] := by
      rw [attempts_renew renewed, attempts_tryOnce first, attempts_prepare prepared]
    exact hv
  | @renewed p q t u v w result _ prepared first _ renewed second =>
    have hw : w.attempts = s.attempts ++ [p.attempt result, q.attempt last] := by
      rw [attempts_tryOnce second, attempts_renew renewed, attempts_tryOnce first, attempts_prepare prepared,
        List.append_assoc]
      rfl
    exact hw

end

end CredentialGateway.Gateway
