import CredentialGateway.Directory
import CredentialGateway.Duration
import CredentialGateway.Http.Message
import CredentialGateway.Json.Text

/-! Why a request could not be forwarded, and the response that tells the caller. No text names a secret. -/

namespace CredentialGateway

inductive TokenError
  | request (url reason : String)
  | status (url : String) (code : Nat)
  | malformed (url reason : String)
  deriving DecidableEq, Repr

def TokenError.message : TokenError → String
  | request url reason => "token request to " ++ url ++ " failed: " ++ reason
  | status url code => "token endpoint " ++ url ++ " responded with status " ++ toString code
  | malformed url reason => "malformed token response from " ++ url ++ ": " ++ reason

inductive CsrfError
  | request (url reason : String)
  | status (url : String) (code : Nat)
  | missingToken (url : String)
  | invalidHeader
  deriving DecidableEq, Repr

def CsrfError.message : CsrfError → String
  | request url reason => "CSRF token request to " ++ url ++ " failed: " ++ reason
  | status url code => "CSRF token endpoint " ++ url ++ " responded with status " ++ toString code
  | missingToken url => "CSRF token endpoint " ++ url ++ " returned no token"
  | invalidHeader => "CSRF token is not a valid header value"

inductive AuthorizationError
  | token (e : TokenError)
  | csrf (e : CsrfError)
  | invalidHeader
  deriving DecidableEq, Repr

def AuthorizationError.message : AuthorizationError → String
  | token e => e.message
  | csrf e => e.message
  | invalidHeader => "credentials do not form a valid header value"

inductive ProxyError
  | lookup (service : String) (e : LookupError)
  | authorization (service : String) (e : AuthorizationError)
  | timeout (service : String) (after : Duration)
  | transport (service reason : String)
  | invalidRequest (reason : String)
  | internal (reason : String)
  deriving DecidableEq, Repr

namespace ProxyError

def message : ProxyError → String
  | lookup service e => "service definition for '" ++ service ++ "' unavailable: " ++ e.message
  | authorization service e => "failed to authorize request to '" ++ service ++ "': " ++ e.message
  | timeout service after => "request to '" ++ service ++ "' timed out after " ++ after.secondsText ++ "s"
  | transport service reason => "request to '" ++ service ++ "' failed: " ++ reason
  | invalidRequest reason => "invalid request: " ++ reason
  | internal reason => "internal error: " ++ reason

def status : ProxyError → Nat
  | lookup _ (.notFound _) => 404
  | lookup _ (.unavailable _) | authorization .. | transport .. => 502
  | lookup _ (.unusable _) | internal _ => 500
  | timeout .. => 504
  | invalidRequest _ => 400

def code : ProxyError → String
  | lookup _ (.notFound _) => "service_not_found"
  | lookup _ (.unavailable _) => "metadata_unavailable"
  | lookup _ (.unusable _) => "metadata_error"
  | authorization .. => "upstream_auth_failure"
  | timeout .. => "upstream_timeout"
  | transport .. => "upstream_transport_error"
  | invalidRequest _ => "invalid_request"
  | internal _ => "internal_error"

end ProxyError

def jsonHeaders : Http.Headers := ⟨[(.contentType, ⟨Bytes.ofText "application/json", false⟩)]⟩

def errorBody (status : Nat) (code message : String) : Bytes :=
  Bytes.ofChars
    (Json.render (.table [("code", .text code), ("message", .text message), ("status", .ofNat status)]))

def errorResponse (status : Nat) (code message : String) : Http.Response :=
  ⟨status, jsonHeaders, some (errorBody status code message)⟩

def ProxyError.response (e : ProxyError) : Http.Response := errorResponse e.status e.code e.message

end CredentialGateway
