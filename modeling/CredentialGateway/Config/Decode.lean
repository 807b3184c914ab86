import CredentialGateway.Config.Basic
import CredentialGateway.Datum

/-! Reading a configuration from a tree of data. Sections and fields that are left out take their defaults, unknown ones
are ignored, and every section may also be written as the list of its fields. -/

namespace CredentialGateway.Config

/-- The kind of text from which a tree comes: the two differ in what they let pass. -/
inductive Dialect
  | json
  | toml
  deriving DecidableEq, Repr

/-- The fields of a section. A date reads as a section without any field that is known. -/
def fields? (dialect : Dialect) (names : List String) : Datum → Option (List (String × Datum))
  | .table fields => some fields
  | .moment => some []
  -- Only JSON minds if there are more items than fields.
  | .list items => if dialect = .json && names.length < items.length then none else some (names.zip items)
  | _ => none

def optional {α : Type} (fields : List (String × Datum)) (key : String) (fallback : α)
    (decode : Datum → Option α) : Option α :=
  match Datum.field? fields key with
  | none => some fallback
  | some d => decode d

def required {α : Type} (fields : List (String × Datum)) (key : String) (decode : Datum → Option α) : Option α :=
  (Datum.field? fields key).bind decode

def orNull {α : Type} (decode : Datum → Option α) : Datum → Option (Option α)
  | .null => some none
  | d => (decode d).map some

def natural? (d : Datum) : Option Nat := d.nat?.filter (· < Nat.pow 2 64)

variable (dialect : Dialect)

def listener? (d : Datum) : Option Listener := do
  let fs ← fields? dialect ["bind_address"] d
  let z : Listener := {}
  return ⟨← optional fs "bind_address" z.bindAddress Datum.text?⟩

def forwarding? (d : Datum) : Option Forwarding := do
  let fs ← fields? dialect
    ["timeout_secs", "skip_verify", "cache_ttl_secs", "cache_sweep_interval_secs", "max_body_bytes"] d
  let z : Forwarding := {}
  return ⟨← optional fs "timeout_secs" z.timeout natural?,
    ← optional fs "skip_verify" z.skipVerify Datum.bool?,
    ← optional fs "cache_ttl_secs" z.cacheTtl natural?,
    ← optional fs "cache_sweep_interval_secs" z.sweepInterval natural?,
    ← optional fs "max_body_bytes" z.maxBody natural?⟩

def tokenCalls? (d : Datum) : Option TokenCalls := do
  let fs ← fields? dialect ["token_timeout_secs"] d
  let z : TokenCalls := {}
  return ⟨← optional fs "token_timeout_secs" z.timeout natural?⟩

def naming? (d : Datum) : Option Naming := do
  let fs ← fields? dialect ["remote_environment", "namespace"] d
  let z : Naming := {}
  return ⟨← optional fs "remote_environment" z.remoteEnvironment Datum.text?,
    ← optional fs "namespace" z.nameSpace Datum.text?⟩

def logFormatOfName? : String → Option LogFormat
  | "pretty" => some .pretty
  | "json" => some .json
  | _ => none

/-- The empty content of a name that is written as a table of one key. -/
def isUnit : Datum → Bool
  | .null => dialect = .json
  | .table [] | .list [] => dialect = .toml
  | _ => false

def logFormat? : Datum → Option LogFormat
  | .text s => logFormatOfName? s
  | .table [(s, d)] => if isUnit dialect d then logFormatOfName? s else none
  | _ => none

def observability? (d : Datum) : Option Observability := do
  let fs ← fields? dialect ["log_level", "log_format", "metrics_enabled", "metrics_address"] d
  let z : Observability := {}
  return ⟨← optional fs "log_level" z.logLevel Datum.text?,
    ← optional fs "log_format" z.logFormat (logFormat? dialect),
    ← optional fs "metrics_enabled" z.metricsEnabled Datum.bool?,
    ← optional fs "metrics_address" z.metricsAddress Datum.text?⟩

def oauth? (d : Datum) : Option OAuthCredentials := do
  let fs ← fields? dialect ["client_id", "client_secret", "url"] d
  return ⟨← required fs "client_id" Datum.text?, ← required fs "client_secret" Datum.text?,
    ← required fs "url" Datum.text?⟩

def basic? (d : Datum) : Option BasicCredentials := do
  let fs ← fields? dialect ["username", "password"] d
  return ⟨← required fs "username" Datum.text?, ← required fs "password" Datum.text?⟩

def certificate? (d : Datum) : Option CertificateRequest := do
  let fs ← fields? dialect ["common_name"] d
  return ⟨← required fs "common_name" Datum.text?⟩

def csrf? (d : Datum) : Option CsrfEndpoint := do
  let fs ← fields? dialect ["token_endpoint_url"] d
  return ⟨← required fs "token_endpoint_url" Datum.text?⟩

def credentials? (d : Datum) : Option Credentials := do
  let fs ← fields? dialect ["oauth", "basic", "certificate_gen", "csrf"] d
  return ⟨← optional fs "oauth" none (orNull (oauth? dialect)),
    ← optional fs "basic" none (orNull (basic? dialect)),
    ← optional fs "certificate_gen" none (orNull (certificate? dialect)),
    ← optional fs "csrf" none (orNull (csrf? dialect))⟩

def service? (d : Datum) : Option Service := do
  let fs ← fields? dialect ["id", "target_url", "credentials"] d
  return ⟨← required fs "id" Datum.text?,
    ⟨← required fs "target_url" Datum.text?,
      ← optional fs "credentials" none (orNull (credentials? dialect))⟩⟩

def services? (d : Datum) : Option (List Service) := do (← d.list?).mapM (service? dialect)

def decode? (d : Datum) : Option Config := do
  let fs ← fields? dialect ["listener", "proxy", "oauth", "resolver", "observability", "services"] d
  return ⟨← optional fs "listener" {} (listener? dialect),
    ← optional fs "proxy" {} (forwarding? dialect),
    ← optional fs "oauth" {} (tokenCalls? dialect),
    ← optional fs "resolver" {} (naming? dialect),
    ← optional fs "observability" {} (observability? dialect),
    ← optional fs "services" [] (services? dialect)⟩

end CredentialGateway.Config
