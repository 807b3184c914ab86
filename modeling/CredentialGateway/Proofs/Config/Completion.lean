import CredentialGateway.Config.Decode
import CredentialGateway.Config.Encode
import CredentialGateway.Proofs.Edit

/-! Configurations of which parts were left out are completed when they are read: each field that was left out has its
default, and the others are not touched. Where a field without a default was left out, reading fails. -/

namespace CredentialGateway

def Edit.value {α : Type} (e : Edit) (key : String) (fallback a : α) : α := if e.omits key then fallback else a

namespace Config

/-! ### What is left of a configuration -/

def completeListener (e : Edit) (l : Listener) : Listener :=
  let z : Listener := {}
  { bindAddress := e.value "bind_address" z.bindAddress l.bindAddress }

def completeForwarding (e : Edit) (f : Forwarding) : Forwarding :=
  let z : Forwarding := {}
  { timeout := e.value "timeout_secs" z.timeout f.timeout
    skipVerify := e.value "skip_verify" z.skipVerify f.skipVerify
    cacheTtl := e.value "cache_ttl_secs" z.cacheTtl f.cacheTtl
    sweepInterval := e.value "cache_sweep_interval_secs" z.sweepInterval f.sweepInterval
    maxBody := e.value "max_body_bytes" z.maxBody f.maxBody }

def completeTokenCalls (e : Edit) (t : TokenCalls) : TokenCalls :=
  let z : TokenCalls := {}
  { timeout := e.value "token_timeout_secs" z.timeout t.timeout }

def completeNaming (e : Edit) (n : Naming) : Naming :=
  let z : Naming := {}
  { remoteEnvironment := e.value "remote_environment" z.remoteEnvironment n.remoteEnvironment
    nameSpace := e.value "namespace" z.nameSpace n.nameSpace }

def completeObservability (e : Edit) (o : Observability) : Observability :=
  let z : Observability := {}
  { logLevel := e.value "log_level" z.logLevel o.logLevel
    logFormat := e.value "log_format" z.logFormat o.logFormat
    metricsEnabled := e.value "metrics_enabled" z.metricsEnabled o.metricsEnabled
    metricsAddress := e.value "metrics_address" z.metricsAddress o.metricsAddress }

def completeCredentials (e : Edit) (c : Credentials) : Credentials :=
  { oauth := e.value "oauth" none c.oauth
    basic := e.value "basic" none c.basic
    certificate := e.value "certificate_gen" none c.certificate
    csrf := e.value "csrf" none c.csrf }

def completeService (e : Edit) (s : Service) : Service :=
  { id := s.id
    definition :=
      { targetUrl := s.definition.targetUrl
        credentials := e.value "credentials" none
          (s.definition.credentials.map (completeCredentials (e.under (.field "credentials")))) } }

def completeServices (e : Edit) (services : List (Service × Nat)) : List Service :=
  services.map fun (s, index) => completeService (e.under (.item index)) s

def complete (e : Edit) (c : Config) : Config :=
  { listener := e.value "listener" {} (completeListener (e.under (.field "listener")) c.listener)
    forwarding := e.value "proxy" {} (completeForwarding (e.under (.field "proxy")) c.forwarding)
    tokenCalls := e.value "oauth" {} (completeTokenCalls (e.under (.field "oauth")) c.tokenCalls)
    naming := e.value "resolver" {} (completeNaming (e.under (.field "resolver")) c.naming)
    observability := e.value "observability" {} (completeObservability (e.under (.field "observability")) c.observability)
    services := e.value "services" [] (completeServices (e.under (.field "services")) c.services.zipIdx) }

/-! ### What an edit makes unreadable -/

def LacksField (e : Edit) (required : List String) : Prop := ∃ field ∈ required, e.omits field = true

def LacksInKind {α : Type} (e : Edit) (kind : String) (written : Option α) (required : List String) : Prop :=
  e.omits kind = false ∧ written.isSome ∧ LacksField (e.under (.field kind)) required

def LacksInCredentials (e : Edit) (c : Credentials) : Prop :=
  LacksInKind e "oauth" c.oauth ["client_id", "client_secret", "url"] ∨
    LacksInKind e "basic" c.basic ["username", "password"] ∨
    LacksInKind e "certificate_gen" c.certificate ["common_name"] ∨
    LacksInKind e "csrf" c.csrf ["token_endpoint_url"]

def LacksInService (e : Edit) (s : Service) : Prop :=
  LacksField e ["id", "target_url"] ∨
    e.omits "credentials" = false ∧
      ∃ c, s.definition.credentials = some c ∧ LacksInCredentials (e.under (.field "credentials")) c

def LacksInServices (e : Edit) (services : List (Service × Nat)) : Prop :=
  ∃ s ∈ services, LacksInService (e.under (.item s.2)) s.1

/-- A field without a default is left out, and nothing around it. -/
def Lacks (e : Edit) (c : Config) : Prop :=
  e.omits "services" = false ∧ LacksInServices (e.under (.field "services")) c.services.zipIdx

/-- Reading fails exactly for what lacks something, and otherwise gives this. -/
structure Reads {α : Type} (lacks : Prop) (a : α) (read : Option α) : Prop where
  fails : lacks → read = none
  gives : ¬lacks → read = some a

namespace Reads
variable {α β : Type} {p q : Prop} {a : α} {b : β} {read : Option α}

theorem pure (a : α) : Reads False a (pure a) := ⟨False.elim, fun _ => rfl⟩

theorem congr (h : Reads p a read) (hpq : p ↔ q) : Reads q a read :=
  ⟨fun hq => h.fails (hpq.mpr hq), fun hq => h.gives (mt hpq.mp hq)⟩

theorem bind {next : α → Option β} (h : Reads p a read) (hnext : Reads q b (next a)) : Reads (p ∨ q) b (read.bind next) where
  fails := by
    rintro (hp | hq)
    · rw [h.fails hp, Option.bind_none]
    · by_cases hp : p
      · rw [h.fails hp, Option.bind_none]
      · rw [h.gives hp, Option.bind_some, hnext.fails hq]
  gives hneither := by
    rw [not_or] at hneither
    rw [h.gives hneither.1, Option.bind_some, hnext.gives hneither.2]

theorem map (f : α → β) (h : Reads p a read) : Reads p (f a) (read.map f) where
  fails hp := by rw [h.fails hp, Option.map_none]
  gives hp := by rw [h.gives hp, Option.map_some]

end Reads

end Config

/-! ### Reading what is left -/

namespace Edit.Edits
open Config

variable {α : Type} {e : Edit} {fields : List (String × Datum)} {decode : Datum → Option α} {a : α} {p : Prop}

theorem readsOptional (h : e.Edits fields) (key : String) (d : Datum) (hmem : (key, d) ∈ fields)
    (hd : Reads p a (decode ((e.under (.field key)).apply d))) (fallback : α) :
    Reads (e.omits key = false ∧ p) (e.value key fallback a) (Config.optional (e.fieldsOf fields) key fallback decode) := by
  rw [Config.optional, h.field? hmem, Edit.value]
  by_cases homits : e.omits key = true
  · rw [if_pos homits, if_pos homits]
    refine ⟨fun ⟨hkept, _⟩ => ?_, fun _ => rfl⟩
    rw [homits] at hkept
    cases hkept
  · rw [if_neg homits, if_neg homits]
    rw [Bool.not_eq_true] at homits
    exact hd.congr (and_iff_right homits).symm

theorem optional (h : e.Edits fields) (key : String) (d : Datum) (hmem : (key, d) ∈ fields)
    (hd : decode ((e.under (.field key)).apply d) = some a) (fallback : α) :
    Config.optional (e.fieldsOf fields) key fallback decode = some (e.value key fallback a) :=
  (h.readsOptional key d hmem (p := False) ⟨False.elim, fun _ => hd⟩ fallback).gives And.right

theorem readsRequired (h : e.Edits fields) (key : String) (d : Datum) (hmem : (key, d) ∈ fields)
    (hd : decode ((e.under (.field key)).apply d) = some a) :
    Reads (e.omits key = true) a (required (e.fieldsOf fields) key decode) := by
  rw [Config.required, h.field? hmem]
  by_cases homits : e.omits key = true
  · rw [if_pos homits]
    exact ⟨fun _ => rfl, fun hkept => absurd homits hkept⟩
  · rw [if_neg homits, Option.bind_some, hd]
    exact ⟨fun hout => absurd hout homits, fun _ => rfl⟩

theorem child_of_some {o : Option α} {encode : α → Datum} {key : String} (h : e.Edits fields)
    (hmem : (key, .ofOption encode o) ∈ fields) (ho : o = some a) : (e.under (.field key)).Fresh (encode a) := by
  subst ho
  exact h.child hmem

end Edit.Edits

namespace Config

structure Fits (c : Config) : Prop where
  timeout : c.forwarding.timeout < Nat.pow 2 64
  cacheTtl : c.forwarding.cacheTtl < Nat.pow 2 64
  sweepInterval : c.forwarding.sweepInterval < Nat.pow 2 64
  maxBody : c.forwarding.maxBody < Nat.pow 2 64
  tokenTimeout : c.tokenCalls.timeout < Nat.pow 2 64

variable {e : Edit} {c : Config} (dialect : Dialect)

theorem text?_apply (e : Edit) (s : String) : (e.apply (.text s)).text? = some s := rfl

theorem bool?_apply (e : Edit) (b : Bool) : (e.apply (.bool b)).bool? = some b := rfl

theorem natural?_apply (e : Edit) {n : Nat} (hn : n < Nat.pow 2 64) : natural? (e.apply (.ofNat n)) = some n := by
  have hnat : natural? (e.apply (.ofNat n)) = (some n).filter (· < Nat.pow 2 64) := rfl
  rw [hnat, Option.filter_some, if_pos (decide_eq_true hn)]

theorem logFormat?_apply (e : Edit) (f : LogFormat) : logFormat? dialect (e.apply (encodeLogFormat f)) = some f := by
  cases f <;> rfl

/-! Sections: every field of them has a default. -/

theorem listener?_apply {l : Listener} (h : e.Fresh (encodeListener l)) :
    listener? dialect (e.apply (encodeListener l)) = some (completeListener e l) := by
  have hedits : e.Edits [("bind_address", .text l.bindAddress)] := ⟨by simp, h⟩
  rw [encodeListener, Edit.apply_table]
  simp only [listener?, fields?, Option.bind_eq_bind, Option.bind_some,
    hedits.optional "bind_address" (.text l.bindAddress) (by simp) (text?_apply _ _)]
  rfl

theorem forwarding?_apply (h : e.Fresh (encodeForwarding c.forwarding)) (hfits : c.Fits) :
    forwarding? dialect (e.apply (encodeForwarding c.forwarding)) = some (completeForwarding e c.forwarding) := by
  have hedits : e.Edits
      [("timeout_secs", .ofNat c.forwarding.timeout), ("skip_verify", .bool c.forwarding.skipVerify),
        ("cache_ttl_secs", .ofNat c.forwarding.cacheTtl), ("cache_sweep_interval_secs", .ofNat c.forwarding.sweepInterval),
        ("max_body_bytes", .ofNat c.forwarding.maxBody)] := ⟨by simp, h⟩
  rw [encodeForwarding, Edit.apply_table]
  simp only [forwarding?, fields?, Option.bind_eq_bind, Option.bind_some,
    hedits.optional "timeout_secs" (.ofNat c.forwarding.timeout) (by simp) (natural?_apply _ hfits.timeout),
    hedits.optional "skip_verify" (.bool c.forwarding.skipVerify) (by simp) (bool?_apply _ _),
    hedits.optional "cache_ttl_secs" (.ofNat c.forwarding.cacheTtl) (by simp) (natural?_apply _ hfits.cacheTtl),
    hedits.optional "cache_sweep_interval_secs" (.ofNat c.forwarding.sweepInterval) (by simp)
      (natural?_apply _ hfits.sweepInterval),
    hedits.optional "max_body_bytes" (.ofNat c.forwarding.maxBody) (by simp) (natural?_apply _ hfits.maxBody)]
  rfl

theorem tokenCalls?_apply (h : e.Fresh (encodeTokenCalls c.tokenCalls)) (hfits : c.Fits) :
    tokenCalls? dialect (e.apply (encodeTokenCalls c.tokenCalls)) = some (completeTokenCalls e c.tokenCalls) := by
  have hedits : e.Edits [("token_timeout_secs", .ofNat c.tokenCalls.timeout)] := ⟨by simp, h⟩
  rw [encodeTokenCalls, Edit.apply_table]
  simp only [tokenCalls?, fields?, Option.bind_eq_bind, Option.bind_some,
    hedits.optional "token_timeout_secs" (.ofNat c.tokenCalls.timeout) (by simp) (natural?_apply _ hfits.tokenTimeout)]
  rfl

theorem naming?_apply {n : Naming} (h : e.Fresh (encodeNaming n)) :
    naming? dialect (e.apply (encodeNaming n)) = some (completeNaming e n) := by
  have hedits : e.Edits [("remote_environment", .text n.remoteEnvironment), ("namespace", .text n.nameSpace)] := ⟨by simp, h⟩
  rw [encodeNaming, Edit.apply_table]
  simp only [naming?, fields?, Option.bind_eq_bind, Option.bind_some,
    hedits.optional "remote_environment" (.text n.remoteEnvironment) (by simp) (text?_apply _ _),
    hedits.optional "namespace" (.text n.nameSpace) (by simp) (text?_apply _ _)]
  rfl

theorem observability?_apply {o : Observability} (h : e.Fresh (encodeObservability o)) :
    observability? dialect (e.apply (encodeObservability o)) = some (completeObservability e o) := by
  have hedits : e.Edits
      [("log_level", .text o.logLevel), ("log_format", encodeLogFormat o.logFormat),
        ("metrics_enabled", .bool o.metricsEnabled), ("metrics_address", .text o.metricsAddress)] := ⟨by simp, h⟩
  rw [encodeObservability, Edit.apply_table]
  simp only [observability?, fields?, Option.bind_eq_bind, Option.bind_some,
    hedits.optional "log_level" (.text o.logLevel) (by simp) (text?_apply _ _),
    hedits.optional "log_format" (encodeLogFormat o.logFormat) (by simp) (logFormat?_apply dialect _ _),
    hedits.optional "metrics_enabled" (.bool o.metricsEnabled) (by simp) (bool?_apply _ _),
    hedits.optional "metrics_address" (.text o.metricsAddress) (by simp) (text?_apply _ _)]
  rfl

/-! The kinds of credentials: every field of them is required. -/

theorem oauth?_apply {c : OAuthCredentials} (h : e.Fresh (encodeOAuth c)) :
    Reads (LacksField e ["client_id", "client_secret", "url"]) c (oauth? dialect (e.apply (encodeOAuth c))) := by
  have hedits : e.Edits
      [("client_id", .text c.clientId), ("client_secret", .text c.clientSecret), ("url", .text c.tokenUrl)] := ⟨by simp, h⟩
  have hid := hedits.readsRequired "client_id" (.text c.clientId) (by simp) (text?_apply _ _)
  have hsecret := hedits.readsRequired "client_secret" (.text c.clientSecret) (by simp) (text?_apply _ _)
  have hurl := hedits.readsRequired "url" (.text c.tokenUrl) (by simp) (text?_apply _ _)
  rw [encodeOAuth, Edit.apply_table]
  simp only [oauth?, fields?, Option.bind_eq_bind, Option.bind_some]
  exact (hid.bind (hsecret.bind (hurl.bind (.pure c)))).congr (by simp [LacksField])

theorem basic?_apply {c : BasicCredentials} (h : e.Fresh (encodeBasic c)) :
    Reads (LacksField e ["username", "password"]) c (basic? dialect (e.apply (encodeBasic c))) := by
  have hedits : e.Edits [("username", .text c.username), ("password", .text c.password)] := ⟨by simp, h⟩
  have husername := hedits.readsRequired "username" (.text c.username) (by simp) (text?_apply _ _)
  have hpassword := hedits.readsRequired "password" (.text c.password) (by simp) (text?_apply _ _)
  rw [encodeBasic, Edit.apply_table]
  simp only [basic?, fields?, Option.bind_eq_bind, Option.bind_some]
  exact (husername.bind (hpassword.bind (.pure c))).congr (by simp [LacksField])

theorem certificate?_apply {c : CertificateRequest} (h : e.Fresh (encodeCertificate c)) :
    Reads (LacksField e ["common_name"]) c (certificate? dialect (e.apply (encodeCertificate c))) := by
  have hedits : e.Edits [("common_name", .text c.commonName)] := ⟨by simp, h⟩
  have hname := hedits.readsRequired "common_name" (.text c.commonName) (by simp) (text?_apply _ _)
  rw [encodeCertificate, Edit.apply_table]
  simp only [certificate?, fields?, Option.bind_eq_bind, Option.bind_some]
  exact (hname.bind (.pure c)).congr (by simp [LacksField])

theorem csrf?_apply {c : CsrfEndpoint} (h : e.Fresh (encodeCsrf c)) :
    Reads (LacksField e ["token_endpoint_url"]) c (csrf? dialect (e.apply (encodeCsrf c))) := by
  have hedits : e.Edits [("token_endpoint_url", .text c.tokenUrl)] := ⟨by simp, h⟩
  have hurl := hedits.readsRequired "token_endpoint_url" (.text c.tokenUrl) (by simp) (text?_apply _ _)
  rw [encodeCsrf, Edit.apply_table]
  simp only [csrf?, fields?, Option.bind_eq_bind, Option.bind_some]
  exact (hurl.bind (.pure c)).congr (by simp [LacksField])

/-! Credentials and services. -/

theorem reads_orNull {α : Type} {encode : α → Datum} {decode : Datum → Option α} {o : Option α} {lacks : α → Prop}
    {left : α → α} (htable : ∀ a, ∃ fields, encode a = .table fields)
    (h : ∀ a, o = some a → Reads (lacks a) (left a) (decode (e.apply (encode a)))) :
    Reads (∃ a, o = some a ∧ lacks a) (o.map left) (orNull decode (e.apply (.ofOption encode o))) := by
  cases o with
  | none => exact (Reads.pure none).congr (by simp)
  | some a =>
    have hdecode : orNull decode (e.apply (encode a)) = (decode (e.apply (encode a))).map some := by
      obtain ⟨fields, hfields⟩ := htable a
      rw [hfields, Edit.apply_table]
      rfl
    have hread := ((h a rfl).map some).congr (q := ∃ b, some a = some b ∧ lacks b) (by simp)
    rwa [← hdecode] at hread

theorem reads_kind {α : Type} {encode : α → Datum} {decode : Datum → Option α} {fields : List (String × Datum)}
    {required : List String} {o : Option α} (hedits : e.Edits fields) (kind : String)
    (hmem : (kind, .ofOption encode o) ∈ fields) (htable : ∀ a, ∃ fields, encode a = .table fields)
    (h : ∀ a, (e.under (.field kind)).Fresh (encode a) →
      Reads (LacksField (e.under (.field kind)) required) a (decode ((e.under (.field kind)).apply (encode a)))) :
    Reads (LacksInKind e kind o required) (e.value kind none o)
      (optional (e.fieldsOf fields) kind none (orNull decode)) := by
  have hread := reads_orNull htable fun a ha => h a (hedits.child_of_some hmem ha)
  rw [Option.map_id'] at hread
  refine (hedits.readsOptional kind _ hmem hread none).congr (and_congr_right fun _ => ?_)
  rw [exists_and_right, Option.isSome_iff_exists]

theorem credentials?_apply {c : Credentials} (h : e.Fresh (encodeCredentials c)) :
    Reads (LacksInCredentials e c) (completeCredentials e c) (credentials? dialect (e.apply (encodeCredentials c))) := by
  have hedits : e.Edits
      [("oauth", .ofOption encodeOAuth c.oauth), ("basic", .ofOption encodeBasic c.basic),
        ("certificate_gen", .ofOption encodeCertificate c.certificate), ("csrf", .ofOption encodeCsrf c.csrf)] :=
    ⟨by simp, h⟩
  have hoauth := reads_kind hedits "oauth" (.head _) (fun _ => ⟨_, rfl⟩) fun _ => oauth?_apply dialect
  have hbasic := reads_kind hedits "basic" (.tail _ (.head _)) (fun _ => ⟨_, rfl⟩) fun _ => basic?_apply dialect
  have hcertificate := reads_kind hedits "certificate_gen" (.tail _ (.tail _ (.head _))) (fun _ => ⟨_, rfl⟩)
    fun _ => certificate?_apply dialect
  have hcsrf := reads_kind hedits "csrf" (.tail _ (.tail _ (.tail _ (.head _)))) (fun _ => ⟨_, rfl⟩)
    fun _ => csrf?_apply dialect
  rw [encodeCredentials, Edit.apply_table]
  simp only [credentials?, fields?, Option.bind_eq_bind, Option.bind_some]
  exact (hoauth.bind (hbasic.bind (hcertificate.bind (hcsrf.bind (.pure (completeCredentials e c)))))).congr
    (by simp only [LacksInCredentials, or_false])

theorem service?_apply {s : Service} (h : e.Fresh (encodeService s)) :
    Reads (LacksInService e s) (completeService e s) (service? dialect (e.apply (encodeService s))) := by
  have hedits : e.Edits
      [("id", .text s.id), ("target_url", .text s.definition.targetUrl),
        ("credentials", .ofOption encodeCredentials s.definition.credentials)] := ⟨by simp, h⟩
  have hmem : ("credentials", Datum.ofOption encodeCredentials s.definition.credentials) ∈
      [("id", .text s.id), ("target_url", .text s.definition.targetUrl),
        ("credentials", .ofOption encodeCredentials s.definition.credentials)] := by simp
  have hid := hedits.readsRequired "id" (.text s.id) (by simp) (text?_apply _ _)
  have htarget := hedits.readsRequired "target_url" (.text s.definition.targetUrl) (by simp) (text?_apply _ _)
  have hcredentials := hedits.readsOptional "credentials" _ hmem
    (reads_orNull (fun _ => ⟨_, rfl⟩) fun c hc => credentials?_apply dialect (hedits.child_of_some hmem hc)) none
  rw [encodeService, Edit.apply_table]
  simp only [service?, fields?, Option.bind_eq_bind, Option.bind_some]
  exact (hid.bind (htarget.bind (hcredentials.bind (.pure (completeService e s))))).congr
    (by simp [LacksInService, LacksField, or_assoc])

theorem reads_services (services : List Service) (index : Nat)
    (h : ∀ s ∈ services.zipIdx index, (e.under (.item s.2)).Fresh (encodeService s.1)) :
    Reads (LacksInServices e (services.zipIdx index)) (completeServices e (services.zipIdx index))
      ((e.applyItems index (services.map encodeService)).mapM (service? dialect)) := by
  induction services generalizing index with
  | nil => exact (Reads.pure []).congr (by simp [LacksInServices])
  | cons s rest ih =>
    have hs : (e.under (.item index)).Fresh (encodeService s) := h (s, index) (by simp)
    have hrest := ih (index + 1) fun t ht => h t (by simp [ht])
    rw [List.map_cons, Edit.applyItems, List.mapM_cons, List.zipIdx_cons]
    refine ((service?_apply dialect hs).bind (hrest.bind (.pure (completeService _ s :: completeServices e _)))).congr ?_
    simp [LacksInServices]

theorem services?_apply {services : List Service} (h : e.Fresh (.list (services.map encodeService))) :
    Reads (LacksInServices e services.zipIdx) (completeServices e services.zipIdx)
      (services? dialect (e.apply (.list (services.map encodeService)))) := by
  refine reads_services dialect services 0 fun s hs => h.under ?_
  have hget : services[s.2]? = some s.1 := List.mem_zipIdx_iff_getElem?.mp hs
  exact (List.getElem?_map ..).trans (congrArg (Option.map encodeService) hget)

theorem decode?_apply (h : e.Fresh (encode c)) (hfits : c.Fits) :
    Reads (Lacks e c) (complete e c) (decode? dialect (e.apply (encode c))) := by
  have hedits : e.Edits
      [("listener", encodeListener c.listener), ("proxy", encodeForwarding c.forwarding),
        ("oauth", encodeTokenCalls c.tokenCalls), ("resolver", encodeNaming c.naming),
        ("observability", encodeObservability c.observability),
        ("services", .list (c.services.map encodeService))] := ⟨by simp, h⟩
  have hlistener := hedits.optional "listener" (encodeListener c.listener) (by simp)
    (listener?_apply dialect (hedits.child (by simp)))
  have hforwarding := hedits.optional "proxy" (encodeForwarding c.forwarding) (by simp)
    (forwarding?_apply dialect (hedits.child (by simp)) hfits)
  have htokenCalls := hedits.optional "oauth" (encodeTokenCalls c.tokenCalls) (by simp)
    (tokenCalls?_apply dialect (hedits.child (by simp)) hfits)
  have hnaming := hedits.optional "resolver" (encodeNaming c.naming) (by simp)
    (naming?_apply dialect (hedits.child (by simp)))
  have hobservability := hedits.optional "observability" (encodeObservability c.observability) (by simp)
    (observability?_apply dialect (hedits.child (by simp)))
  have hservices := hedits.readsOptional "services" (.list (c.services.map encodeService)) (by simp)
    (services?_apply dialect (hedits.child (by simp))) []
  rw [encode, Edit.apply_table]
  simp only [decode?, fields?, Option.bind_eq_bind, Option.bind_some, hlistener, hforwarding, htokenCalls, hnaming,
    hobservability]
  exact (hservices.bind (.pure (complete e c))).congr (by rw [or_false, Lacks])

end Config
end CredentialGateway
