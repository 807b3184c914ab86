import CredentialGateway.Text.Quoted

/-! Services: where their requests go, and with which credentials. Secrets are redacted wherever a service is shown. -/

namespace CredentialGateway

open Text

structure OAuthCredentials where
  clientId : String
  clientSecret : String
  tokenUrl : String
  deriving DecidableEq, Repr

structure BasicCredentials where
  username : String
  password : String
  deriving DecidableEq, Repr

/-- A certificate to be issued; it is carried along and has no effect on requests. -/
structure CertificateRequest where
  commonName : String
  deriving DecidableEq, Repr

structure CsrfEndpoint where
  tokenUrl : String
  deriving DecidableEq, Repr

structure Credentials where
  oauth : Option OAuthCredentials := none
  basic : Option BasicCredentials := none
  certificate : Option CertificateRequest := none
  csrf : Option CsrfEndpoint := none
  deriving DecidableEq, Repr

structure ServiceDefinition where
  targetUrl : String
  credentials : Option Credentials := none
  deriving DecidableEq, Repr

structure Service where
  id : String
  definition : ServiceDefinition
  deriving DecidableEq, Repr

def redacted : String := quoted "<redacted>"

def OAuthCredentials.shown (c : OAuthCredentials) : String :=
  shownRecord "OAuthCredentials"
    [("client_id", quoted c.clientId), ("client_secret", redacted), ("token_url", quoted c.tokenUrl)]

def BasicCredentials.shown (c : BasicCredentials) : String :=
  shownRecord "BasicCredentials" [("username", quoted c.username), ("password", redacted)]

def CertificateRequest.shown (c : CertificateRequest) : String :=
  shownRecord "CertificateGen" [("common_name", quoted c.commonName)]

def CsrfEndpoint.shown (c : CsrfEndpoint) : String :=
  shownRecord "CsrfInfo" [("token_endpoint_url", quoted c.tokenUrl)]

def Credentials.shown (c : Credentials) : String :=
  shownRecord "Credentials"
    [("oauth", shownOption (c.oauth.map OAuthCredentials.shown)),
      ("basic", shownOption (c.basic.map BasicCredentials.shown)),
      ("certificate_gen", shownOption (c.certificate.map CertificateRequest.shown)),
      ("csrf", shownOption (c.csrf.map CsrfEndpoint.shown))]

def ServiceDefinition.shown (d : ServiceDefinition) : String :=
  shownRecord "ServiceDefinition"
    [("target_url", quoted d.targetUrl), ("credentials", shownOption (d.credentials.map Credentials.shown))]

end CredentialGateway
