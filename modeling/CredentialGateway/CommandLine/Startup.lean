import CredentialGateway.CommandLine.Arguments
import CredentialGateway.Config.Load
import CredentialGateway.Log.Record

/-! From the arguments to a process that listens or has failed, and what it logs on the way. -/

namespace CredentialGateway.CommandLine

open Log

structure Machine where
  file : String → Config.File
  /-- Listens on an address, and gives the address with the port that was chosen. -/
  listen : SocketAddress → Except SystemError SocketAddress
  logFilter : Option String

/-- Listening on a host that lets no connection in: only the machine may choose a port, at an address that it has. -/
def listenConfined (a : SocketAddress) : Except SystemError SocketAddress :=
  if a.port ≠ 0 then .error .permissionDenied
  else if a.isLocal then .ok a
  else .error .addressNotAvailable

def version : String := "0.1.0"

def record (level : Level) (message : String) (fields : List (String × Field)) : Record :=
  ⟨level, "service_proxy", message, fields⟩

def loadedRecord (c : Config) : Record :=
  record .info "Configuration loaded"
    [("bind_address", .text c.listener.bindAddress), ("services", .number c.services.length),
      ("timeout_secs", .number c.forwarding.timeout), ("cache_ttl_secs", .number c.forwarding.cacheTtl),
      ("skip_verify", .flag c.forwarding.skipVerify)]

def metricsTarget : String := "service_proxy::observability::metrics"

/-- Starts to offer the metrics on an address of their own. A failure does not stop the process. -/
def metricsRecord (m : Machine) (address : String) : Record :=
  match SocketAddress.parse? address with
  | none => record .error "Failed to parse metrics address" [("metrics_address", .text address)]
  | some a =>
    match m.listen a with
    | .ok _ => ⟨.info, metricsTarget, "Metrics exporter listening", [("address", .text a.text)]⟩
    | .error e =>
      ⟨.error, metricsTarget, "Failed to install metrics exporter",
        [("error", .text ("failed to create HTTP listener: " ++ e.message))]⟩

def openingRecords (m : Machine) (c : Config) : List Record :=
  [record .info "service-proxy starting" [("version", .literal version)], loadedRecord c] ++
    (if c.forwarding.skipVerify then
      [record .warn "TLS certificate verification is disabled for outbound calls" []]
    else []) ++
    if c.observability.metricsEnabled then [metricsRecord m c.observability.metricsAddress] else []

inductive StartError
  | load (e : Config.LoadError)
  | listen (e : SystemError)
  deriving DecidableEq, Repr

def StartError.shown : StartError → String
  | load e => e.shown
  | listen e => e.shown

structure Serving where
  config : Config
  watched : Option String
  address : SocketAddress
  deriving DecidableEq, Repr

inductive Stage
  | help
  | refused (e : UsageError)
  | failed (e : StartError)
  | serving (s : Serving)
  deriving DecidableEq, Repr

def Stage.exitCode : Stage → Nat
  | help | serving _ => 0
  | refused _ => 2
  | failed _ => 1

def Stage.complaint : Stage → Option String
  | help | serving _ => none
  | refused e => some ("error: " ++ e.message)
  | failed e => some ("Error: " ++ e.shown)

structure Launch where
  stage : Stage
  format : Config.LogFormat
  filter : Filter
  /-- What was logged, before the filter. -/
  log : List Record
  deriving DecidableEq, Repr

namespace Launch

def silent (stage : Stage) : Launch := ⟨stage, .pretty, ⟨[]⟩, []⟩

def loadConfig (m : Machine) : Option String → Except Config.LoadError Config
  | none => .ok {}
  | some path => Config.load (m.file path)

/-- The address to listen on, which a configuration without violations always has. -/
def listen (m : Machine) (c : Config) : Except SystemError SocketAddress :=
  match SocketAddress.parse? c.listener.bindAddress with
  | none => .error .addressNotAvailable
  | some a => m.listen a

def stageOf (m : Machine) (a : Arguments) (c : Config) : Stage :=
  match listen m c with
  | .error e => .failed (.listen e)
  | .ok address => .serving ⟨c, if a.watch then a.config else none, address⟩

def start (m : Machine) (args : List String) : Launch :=
  match Arguments.read args with
  | .error .help => silent .help
  | .error (.refused e) => silent (.refused e)
  | .ok a =>
    match loadConfig m a.config with
    | .error e => silent (.failed (.load e))
    | .ok c =>
      { stage := stageOf m a c
        format := c.observability.logFormat
        filter := .ofSettings m.logFilter c.observability.logLevel
        log := openingRecords m c }

def written (p : Launch) : List Record := p.filter.select p.log

end Launch

end CredentialGateway.CommandLine
