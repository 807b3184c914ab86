import CredentialGateway.Service

/-! The configuration of a gateway and its defaults. -/

namespace CredentialGateway

namespace Config

structure Listener where
  bindAddress : String := "0.0.0.0:8080"
  deriving DecidableEq, Repr

/-- How requests are forwarded. Times are in seconds; a sweep interval of zero stands for no sweeps. -/
structure Forwarding where
  timeout : Nat := 10
  skipVerify : Bool := false
  cacheTtl : Nat := 120
  sweepInterval : Nat := 60
  maxBody : Nat := 10485760
  deriving DecidableEq, Repr

/-- The timeout, in seconds, of calls to token and CSRF endpoints. -/
structure TokenCalls where
  timeout : Nat := 10
  deriving DecidableEq, Repr

structure Naming where
  remoteEnvironment : String := ""
  nameSpace : String := ""
  deriving DecidableEq, Repr

inductive LogFormat
  | pretty
  | json
  deriving DecidableEq, Repr

structure Observability where
  logLevel : String := "info"
  logFormat : LogFormat := .pretty
  metricsEnabled : Bool := false
  metricsAddress : String := "0.0.0.0:9090"
  deriving DecidableEq, Repr

end Config

structure Config where
  listener : Config.Listener := ⟨"0.0.0.0:8080"⟩
  forwarding : Config.Forwarding := {}
  tokenCalls : Config.TokenCalls := {}
  naming : Config.Naming := {}
  observability : Config.Observability := {}
  services : List Service := []
  deriving DecidableEq, Repr

end CredentialGateway
