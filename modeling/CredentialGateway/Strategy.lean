import CredentialGateway.Service

/-! How the requests of a service are authorized: a mechanism, and perhaps a CSRF handshake after it. -/

namespace CredentialGateway

inductive Mechanism
  | none
  | basic (username password : String)
  | oauth (clientId clientSecret tokenUrl : String)
  deriving DecidableEq, Repr

def Mechanism.name : Mechanism → String
  | none => "none"
  | basic .. => "basic"
  | oauth .. => "oauth"

structure Strategy where
  mechanism : Mechanism
  csrf : Option String
  deriving DecidableEq, Repr

namespace Strategy
open Text

/-- OAuth goes before Basic; each counts only if it is filled in. -/
def mechanismOf (c : Credentials) : Mechanism :=
  match c.oauth.filter fun o => o.clientId ≠ "" && o.clientSecret ≠ "" with
  | some o => .oauth o.clientId o.clientSecret o.tokenUrl
  | none =>
    match c.basic.filter fun b => b.username ≠ "" with
    | some b => .basic b.username b.password
    | none => .none

def ofCredentials : Option Credentials → Strategy
  | none => ⟨.none, none⟩
  | some c => ⟨mechanismOf c, c.csrf.map CsrfEndpoint.tokenUrl⟩

def shown (s : Strategy) : String :=
  shownRecord "AuthorizationStrategy"
    (("kind", quoted s.mechanism.name) ::
      ((match s.mechanism with
        | .oauth clientId _ tokenUrl => [("client_id", quoted clientId), ("token_url", quoted tokenUrl)]
        | _ => []) ++
      [("csrf", shownOption (s.csrf.map quoted))]))

end Strategy
end CredentialGateway
