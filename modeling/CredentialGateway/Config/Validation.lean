import CredentialGateway.Config.Basic
import CredentialGateway.SocketAddress
import CredentialGateway.Unicode.Blank
import CredentialGateway.Url.Parse

/-! The rules that a configuration has to keep beyond its shape. All violations are reported, in a fixed order. -/

namespace CredentialGateway.Config

inductive Limit
  | timeout
  | cacheTtl
  | maxBody
  | tokenTimeout
  deriving DecidableEq, Repr

def Limit.name : Limit → String
  | timeout => "proxy.timeout_secs"
  | cacheTtl => "proxy.cache_ttl_secs"
  | maxBody => "proxy.max_body_bytes"
  | tokenTimeout => "oauth.token_timeout_secs"

inductive UrlField
  | target
  | oauth
  | csrf
  deriving DecidableEq, Repr

def UrlField.name : UrlField → String
  | target => "target_url"
  | oauth => "oauth.url"
  | csrf => "csrf.token_endpoint_url"

inductive Violation
  | bindAddress (value : String)
  | zero (limit : Limit)
  | emptyServiceId (index : Nat)
  | duplicateService (id : String)
  | invalidUrl (service : String) (field : UrlField) (value : String)
  deriving DecidableEq, Repr

def Violation.message : Violation → String
  | bindAddress value => "invalid bind address '" ++ value ++ "'"
  | zero limit => limit.name ++ " must be greater than zero"
  | emptyServiceId index => "service at index " ++ toString index ++ " has an empty id"
  | duplicateService id => "service '" ++ id ++ "' is defined more than once"
  | invalidUrl service field value =>
    "service '" ++ service ++ "' has an invalid " ++ field.name ++ " '" ++ value ++ "'"

def Violation.shown : Violation → String
  | bindAddress value => "BindAddress(" ++ Text.quoted value ++ ")"
  | zero limit => Text.shownRecord "Zero" [("field", Text.quoted limit.name)]
  | emptyServiceId index => Text.shownRecord "EmptyServiceId" [("index", toString index)]
  | duplicateService id => "DuplicateService(" ++ Text.quoted id ++ ")"
  | invalidUrl service field value =>
    Text.shownRecord "InvalidUrl"
      [("service", Text.quoted service), ("field", Text.quoted field.name), ("value", Text.quoted value)]

def isUrl (s : String) : Bool :=
  match Url.parse s with
  | .ok _ => true
  | .error _ => false

def checkLimits (c : Config) : List Violation :=
  [(c.forwarding.timeout, Limit.timeout), (c.forwarding.cacheTtl, .cacheTtl), (c.forwarding.maxBody, .maxBody),
    (c.tokenCalls.timeout, .tokenTimeout)].filterMap fun (n, limit) =>
      if n = 0 then some (.zero limit) else none

def serviceUrls (s : Service) : List (UrlField × String) :=
  let c := s.definition.credentials
  (.target, s.definition.targetUrl) ::
    ((c.bind Credentials.oauth).map fun o => (UrlField.oauth, o.tokenUrl)).toList ++
    ((c.bind Credentials.csrf).map fun e => (UrlField.csrf, e.tokenUrl)).toList

def isBlankId (id : String) : Bool := (Unicode.trim id.toList).isEmpty

def checkService (seen : List String) (s : Service) : List Violation :=
  -- Ids are compared as they are written.
  (if seen.contains s.id then [.duplicateService s.id] else []) ++
    (serviceUrls s).filterMap fun (field, value) =>
      if isUrl value then none else some (.invalidUrl s.id field value)

/-- Checks services from the given index on, after services with the ids `seen`. Blank ids are reported and not noted. -/
def checkServices (seen : List String) (index : Nat) : List Service → List Violation
  | [] => []
  | s :: rest =>
    if isBlankId s.id then .emptyServiceId index :: checkServices seen (index + 1) rest
    else checkService seen s ++ checkServices (s.id :: seen) (index + 1) rest

def violations (c : Config) : List Violation :=
  (if (SocketAddress.parse? c.listener.bindAddress).isSome then [] else [.bindAddress c.listener.bindAddress]) ++
    checkLimits c ++ checkServices [] 0 c.services

end CredentialGateway.Config
