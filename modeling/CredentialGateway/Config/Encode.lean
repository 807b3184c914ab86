import CredentialGateway.Config.Basic
import CredentialGateway.Datum

/-! A configuration as a tree of data, written in full. -/

namespace CredentialGateway.Config

def encodeListener (l : Listener) : Datum := .table [("bind_address", .text l.bindAddress)]

def encodeForwarding (f : Forwarding) : Datum :=
  .table
    [("timeout_secs", .ofNat f.timeout), ("skip_verify", .bool f.skipVerify), ("cache_ttl_secs", .ofNat f.cacheTtl),
      ("cache_sweep_interval_secs", .ofNat f.sweepInterval), ("max_body_bytes", .ofNat f.maxBody)]

def encodeTokenCalls (t : TokenCalls) : Datum := .table [("token_timeout_secs", .ofNat t.timeout)]

def encodeNaming (n : Naming) : Datum :=
  .table [("remote_environment", .text n.remoteEnvironment), ("namespace", .text n.nameSpace)]

def encodeLogFormat : LogFormat → Datum
  | .pretty => .text "pretty"
  | .json => .text "json"

def encodeObservability (o : Observability) : Datum :=
  .table
    [("log_level", .text o.logLevel), ("log_format", encodeLogFormat o.logFormat),
      ("metrics_enabled", .bool o.metricsEnabled), ("metrics_address", .text o.metricsAddress)]

def encodeOAuth (c : OAuthCredentials) : Datum :=
  .table [("client_id", .text c.clientId), ("client_secret", .text c.clientSecret), ("url", .text c.tokenUrl)]

def encodeBasic (c : BasicCredentials) : Datum :=
  .table [("username", .text c.username), ("password", .text c.password)]

def encodeCertificate (c : CertificateRequest) : Datum := .table [("common_name", .text c.commonName)]

def encodeCsrf (c : CsrfEndpoint) : Datum := .table [("token_endpoint_url", .text c.tokenUrl)]

def encodeCredentials (c : Credentials) : Datum :=
  .table
    [("oauth", .ofOption encodeOAuth c.oauth), ("basic", .ofOption encodeBasic c.basic),
      ("certificate_gen", .ofOption encodeCertificate c.certificate), ("csrf", .ofOption encodeCsrf c.csrf)]

def encodeService (s : Service) : Datum :=
  .table
    [("id", .text s.id), ("target_url", .text s.definition.targetUrl),
      ("credentials", .ofOption encodeCredentials s.definition.credentials)]

def encode (c : Config) : Datum :=
  .table
    [("listener", encodeListener c.listener), ("proxy", encodeForwarding c.forwarding),
      ("oauth", encodeTokenCalls c.tokenCalls), ("resolver", encodeNaming c.naming),
      ("observability", encodeObservability c.observability),
      ("services", .list (c.services.map encodeService))]

end CredentialGateway.Config
