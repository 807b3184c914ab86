import CredentialGateway.Proofs.Gateway.Caching

/-! What the acts of a gateway record, and how a journal is read: each event that is counted stands for one kind of act. -/

namespace CredentialGateway

open Http

namespace Session

variable {r : Reach} {s : Session}

def asked? (r : Reach) (key : TokenKey) (clientSecret : String) (s : Session) : Option (Except TokenError TokenAnswer) :=
  match s.tokens.cached? s.world.clock key with
  | some _ => none
  | none =>
    match (s.tokens.enter s.world.clock key clientSecret).1 with
    | .cached _ => none
    | .joined f | .opened f =>
      some (Token.requestToken r.network r.tokenTimeout key.clientId f.clientSecret key.tokenUrl s.world).1

def askedBy? (r : Reach) (m : Mechanism) (s : Session) : Option (Except TokenError TokenAnswer) :=
  match m with
  | .oauth clientId clientSecret url => s.asked? r ⟨clientId, url⟩ clientSecret
  | .none | .basic _ _ => none

def noteOf (answer : Except TokenError TokenAnswer) : Metric := .tokenFetch answer.isOk

theorem metrics_getToken (r : Reach) (key : TokenKey) (clientSecret : String) (s : Session) :
    (getToken r key clientSecret s).2.metrics = (s.asked? r key clientSecret).toList.map noteOf ++ s.metrics := by
  rcases hcached : s.tokens.cached? s.world.clock key with - | token
  · simp only [getToken, asked?, hcached]
    rcases s.tokens.enter s.world.clock key clientSecret with ⟨admission, tokens⟩
    cases admission with
    | cached token => rfl
    | joined f | opened f => rfl
  · simp only [getToken, asked?, hcached]
    rfl

theorem metrics_getCsrfToken (r : Reach) (url : String) (authorization : Option HeaderValue) (s : Session) :
    (getCsrfToken r url authorization s).2.metrics = s.metrics := by
  unfold getCsrfToken
  split
  · rfl
  · split
    · rfl
    · split
      · rfl
      · split <;> rfl

theorem metrics_setMechanism (r : Reach) (m : Mechanism) (h : Headers) (s : Session) :
    (setMechanism r m h s).2.metrics = (s.askedBy? r m).toList.map noteOf ++ s.metrics := by
  cases m with
  | none => rfl
  | basic username password =>
    rw [setMechanism_basic]
    rfl
  | oauth clientId clientSecret url =>
    have hget := metrics_getToken r ⟨clientId, url⟩ clientSecret s
    simp only [setMechanism]
    split
    · rename_i heq
      rw [heq] at hget
      exact hget
    · rename_i heq
      rw [heq] at hget
      split
      · exact hget
      · exact hget

theorem metrics_setup (r : Reach) (strategy : Strategy) (h : Headers) (s : Session) :
    (setup r strategy h s).2.metrics = (setMechanism r strategy.mechanism h s).2.metrics := by
  obtain hsame | ⟨url, authorization, -, hget⟩ := session_setup r strategy h s
  · rw [hsame]
  · rw [hget, metrics_getCsrfToken]

end Session

namespace Gateway

def fetch? (g : Gateway) (entry : CacheEntry) (o : Outbound) (s : State) : Option (Except TokenError TokenAnswer) :=
  match o.accessToken with
  | some _ => none
  | none => s.toSession.askedBy? g.toReach entry.strategy.mechanism

/-- What an act records, the last event first. -/
def Act.notes (g : Gateway) (s : State) : Act → List Metric
  | seek id =>
    .cacheLookup (s.cachedEntry id).1.isSome ::
      if (s.cachedEntry id).1.isNone && (s.cache.find? id).isSome then [.cacheSize (s.cachedEntry id).2.cache.size] else []
  | build id => if (s.rebuildEntry id).1.isOk then [.cacheSize (s.rebuildEntry id).2.cache.size] else []
  | settle entry o => (g.fetch? entry o s).toList.map Session.noteOf
  | noteRetry outcome => [.forbiddenRetry outcome]
  | noteRequest method status millis => [.request method status millis]
  | reload _ => [.cacheSize 0]
  | sweep => [.cacheSize s.evictExpired.cache.size]
  | first _ | again _ | drop _ | read _ | advance _ => []

def isSeek : State × Act → Bool
  | (_, .seek _) => true
  | _ => false

def isLookup (hit : Bool) : State × Act → Bool
  | (s, .seek id) => (s.cachedEntry id).1.isSome == hit
  | _ => false

def isBuild : State × Act → Bool
  | (_, .build _) => true
  | _ => false

def isFetch (g : Gateway) (success : Bool) : State × Act → Bool
  | (s, .settle entry o) => (g.fetch? entry o s).any fun answer => answer.isOk == success
  | _ => false

def isRetry : State × Act → Bool
  | (_, .noteRetry _) => true
  | _ => false

def isAnswer (method : String) (status : Nat) : State × Act → Bool
  | (_, .noteRequest method' status' _) => method' == method && status' == status
  | _ => false

variable {g : Gateway} {s : State} {a : Act}

theorem metrics_reset (strategy : Strategy) (s : Session) : (s.reset strategy).metrics = s.metrics := by
  unfold Session.reset
  split <;> split <;> rfl

theorem metrics_authorize (g : Gateway) (entry : CacheEntry) (o : Outbound) (s : State) :
    (g.authorize entry o s.toSession).2.metrics = (g.fetch? entry o s).toList.map Session.noteOf ++ s.metrics := by
  rcases htoken : o.accessToken with - | token
  · have hsetup := Session.metrics_setup g.toReach entry.strategy o.headers s.toSession
    rw [Session.metrics_setMechanism] at hsetup
    simp only [authorize, fetch?, htoken]
    split
    · rename_i heq
      rw [heq] at hsetup
      exact hsetup
    · rename_i heq
      rw [heq] at hsetup
      exact hsetup
  · simp only [authorize, fetch?, htoken]
    rfl

theorem metrics_perform (g : Gateway) (s : State) (a : Act) : (a.perform g s).metrics = a.notes g s ++ s.metrics := by
  cases a with
  | seek id =>
    simp only [Act.perform, Act.notes]
    obtain ⟨e, -, -, hseek⟩ | ⟨hnone, hseek⟩ | ⟨e, hsome, -, hseek⟩ := cachedEntry_cases id s
    · simp [hseek]
      rfl
    · simp [hseek, hnone]
      rfl
    · simp [hseek, hsome]
      rfl
  | build id =>
    simp only [Act.perform, Act.notes]
    obtain ⟨e, hbuild, -⟩ | ⟨target, strategy, hbuild⟩ := rebuildEntry_cases id s
    · rw [hbuild]
      rfl
    · rw [hbuild]
      rfl
  | settle entry o => exact metrics_authorize g entry o s
  | drop strategy => exact metrics_reset strategy s.toSession
  | first _ | again _ | noteRetry _ | noteRequest _ _ _ | read _ | reload _ | advance _ | sweep => rfl

theorem count_after {f : State → Nat} {q : State × Act → Bool}
    (hstep : ∀ s a, f (a.perform g s) = f s + if q (s, a) then 1 else 0) (acts : List Act) (s : State) :
    f (after g acts s) = f s + (journal g acts s).countP q := by
  induction acts generalizing s with
  | nil => rfl
  | cons a acts ih =>
    have hrest : f (after g (a :: acts) s) = f (a.perform g s) + (journal g acts (a.perform g s)).countP q := ih _
    rw [hrest, hstep, journal, List.countP_cons]
    omega

theorem recorded_after {p : Metric → Bool} {q : State × Act → Bool}
    (hnotes : ∀ s a, (a.notes g s).countP p = if q (s, a) then 1 else 0) (acts : List Act) (s : State) :
    (after g acts s).metrics.countP p = s.metrics.countP p + (journal g acts s).countP q := by
  refine count_after (f := fun s => s.metrics.countP p) (fun s a => ?_) acts s
  rw [metrics_perform, List.countP_append, hnotes, Nat.add_comm]

theorem lookups_after (g : Gateway) (acts : List Act) (s : State) :
    (after g acts s).lookups = s.lookups + (journal g acts s).countP isBuild := by
  refine count_after (f := State.lookups) (fun s a => ?_) acts s
  cases a with
  | seek id =>
    simp only [Act.perform]
    obtain ⟨e, -, -, hseek⟩ | ⟨-, hseek⟩ | ⟨e, -, -, hseek⟩ := cachedEntry_cases id s
    all_goals
      rw [hseek]
      rfl
  | build id => exact lookups_rebuildEntry id s
  | _ => rfl

theorem entries_perform (h : s.metrics.cacheEntries = s.cache.size) (g : Gateway) (a : Act) :
    (a.perform g s).metrics.cacheEntries = (a.perform g s).cache.size := by
  cases a with
  | seek id =>
    simp only [Act.perform]
    obtain ⟨e, -, -, hseek⟩ | ⟨-, hseek⟩ | ⟨e, -, -, hseek⟩ := cachedEntry_cases id s
    · rw [hseek]
      exact h
    · rw [hseek]
      exact h
    · rw [hseek]
      rfl
  | build id =>
    simp only [Act.perform]
    obtain ⟨e, hbuild, -⟩ | ⟨target, strategy, hbuild⟩ := rebuildEntry_cases id s
    · rw [hbuild]
      exact h
    · rw [hbuild]
      rfl
  | settle entry o =>
    rw [metrics_perform]
    show Metrics.cacheEntries ((g.fetch? entry o s).toList.map Session.noteOf ++ s.metrics) = s.cache.size
    rcases g.fetch? entry o s with - | answer
    · exact h
    · exact h
  | drop strategy =>
    rw [metrics_perform]
    exact h
  | reload services | sweep => rfl
  | first _ | again _ | noteRetry _ | noteRequest _ _ _ | read _ | advance _ => exact h

theorem entries_after (h : s.metrics.cacheEntries = s.cache.size) (g : Gateway) (acts : List Act) :
    (after g acts s).metrics.cacheEntries = (after g acts s).cache.size :=
  after_keeps (P := fun t => t.metrics.cacheEntries = t.cache.size) (fun _ a h => entries_perform h g a) h acts

end Gateway
end CredentialGateway
