import CredentialGateway.Bytes
import CredentialGateway.Cache.Basic
import CredentialGateway.Cache.Sweeper
import CredentialGateway.Cache.Traffic
import CredentialGateway.CommandLine.Arguments
import CredentialGateway.CommandLine.Serving
import CredentialGateway.CommandLine.Startup
import CredentialGateway.Config.Basic
import CredentialGateway.Config.Decode
import CredentialGateway.Config.Encode
import CredentialGateway.Config.Load
import CredentialGateway.Config.Reload
import CredentialGateway.Config.Validation
import CredentialGateway.Csrf
import CredentialGateway.Datum
import CredentialGateway.Decimal.Shortest
import CredentialGateway.Directory
import CredentialGateway.Duration
import CredentialGateway.Gateway.Basic
import CredentialGateway.Gateway.Dispatch
import CredentialGateway.Gateway.Forward
import CredentialGateway.Gateway.Session
import CredentialGateway.Http.Body
import CredentialGateway.Http.Header
import CredentialGateway.Http.HopByHop
import CredentialGateway.Http.Message
import CredentialGateway.Http.Method
import CredentialGateway.Http.RequestUri
import CredentialGateway.Json.Text
import CredentialGateway.Log.Filter
import CredentialGateway.Log.Record
import CredentialGateway.Log.Time
import CredentialGateway.Main
import CredentialGateway.Metrics
import CredentialGateway.Network.Basic
import CredentialGateway.Network.Client
import CredentialGateway.Network.Rules
import CredentialGateway.Network.Wire
import CredentialGateway.Outbound
import CredentialGateway.Proofs.Cache.Basic
import CredentialGateway.Proofs.Cache.Eviction
import CredentialGateway.Proofs.Cache.History
import CredentialGateway.Proofs.Cache.Reload
import CredentialGateway.Proofs.Cache.Sound
import CredentialGateway.Proofs.Cache.Traffic
import CredentialGateway.Proofs.Config.Accepted
import CredentialGateway.Proofs.Config.Completion
import CredentialGateway.Proofs.Config.Directory
import CredentialGateway.Proofs.Config.Violations
import CredentialGateway.Proofs.Config.Written
import CredentialGateway.Proofs.Cookies
import CredentialGateway.Proofs.Csrf
import CredentialGateway.Proofs.Edit
import CredentialGateway.Proofs.Gateway.Acts
import CredentialGateway.Proofs.Gateway.Agreement
import CredentialGateway.Proofs.Gateway.Alike
import CredentialGateway.Proofs.Gateway.Attempt
import CredentialGateway.Proofs.Gateway.Balance
import CredentialGateway.Proofs.Gateway.Caching
import CredentialGateway.Proofs.Gateway.Course
import CredentialGateway.Proofs.Gateway.Entries
import CredentialGateway.Proofs.Gateway.Formed
import CredentialGateway.Proofs.Gateway.Forwarded
import CredentialGateway.Proofs.Gateway.Frame
import CredentialGateway.Proofs.Gateway.Handshake
import CredentialGateway.Proofs.Gateway.Holdings
import CredentialGateway.Proofs.Gateway.Isolation
import CredentialGateway.Proofs.Gateway.Kept
import CredentialGateway.Proofs.Gateway.Lockstep
import CredentialGateway.Proofs.Gateway.Mirror
import CredentialGateway.Proofs.Gateway.Passthrough
import CredentialGateway.Proofs.Gateway.Provenance
import CredentialGateway.Proofs.Gateway.Recorded
import CredentialGateway.Proofs.Gateway.Recovery
import CredentialGateway.Proofs.Gateway.Redaction
import CredentialGateway.Proofs.Gateway.Renewal
import CredentialGateway.Proofs.Gateway.Secrets
import CredentialGateway.Proofs.Gateway.Served
import CredentialGateway.Proofs.Gateway.Session
import CredentialGateway.Proofs.Gateway.Traceless
import CredentialGateway.Proofs.Gateway.Unusable
import CredentialGateway.Proofs.Gateway.Veil
import CredentialGateway.Proofs.Gateway.Waiting
import CredentialGateway.Proofs.Gateway.Warrants
import CredentialGateway.Proofs.Http.Authority
import CredentialGateway.Proofs.Http.Body
import CredentialGateway.Proofs.Http.FieldText
import CredentialGateway.Proofs.Http.Header
import CredentialGateway.Proofs.Http.HopByHop
import CredentialGateway.Proofs.Http.RequestUri
import CredentialGateway.Proofs.Http.Stripping
import CredentialGateway.Proofs.Json.Text
import CredentialGateway.Proofs.Keyed
import CredentialGateway.Proofs.Metrics
import CredentialGateway.Proofs.Network.Bodies
import CredentialGateway.Proofs.Network.Client
import CredentialGateway.Proofs.Network.Deadline
import CredentialGateway.Proofs.Network.History
import CredentialGateway.Proofs.Network.Redirects
import CredentialGateway.Proofs.Network.Veil
import CredentialGateway.Proofs.Routing.Addressing
import CredentialGateway.Proofs.Routing.GatewayHost
import CredentialGateway.Proofs.Routing.Naming
import CredentialGateway.Proofs.Server.Freshness
import CredentialGateway.Proofs.Server.Identity
import CredentialGateway.Proofs.Server.Journal
import CredentialGateway.Proofs.Server.Metrics
import CredentialGateway.Proofs.Server.Redaction
import CredentialGateway.Proofs.Server.Renewal
import CredentialGateway.Proofs.Server.Run
import CredentialGateway.Proofs.Server.Secrecy
import CredentialGateway.Proofs.Server.Transparency
import CredentialGateway.Proofs.Server.Updates
import CredentialGateway.Proofs.Shutdown.Audience
import CredentialGateway.Proofs.Token.Barrier
import CredentialGateway.Proofs.Token.Bookkeeping
import CredentialGateway.Proofs.Token.Delivery
import CredentialGateway.Proofs.Token.Freshness
import CredentialGateway.Proofs.Token.Outstanding
import CredentialGateway.Proofs.Token.Register
import CredentialGateway.Proofs.Token.Serving
import CredentialGateway.Proofs.Token.SingleFlight
import CredentialGateway.Proofs.Token.Store
import CredentialGateway.Proofs.Token.Traffic
import CredentialGateway.Proofs.Token.Waiting
import CredentialGateway.Proofs.Unicode.LetterCase
import CredentialGateway.Proofs.Unicode.LowerCase
import CredentialGateway.Proofs.Unicode.Utf8
import CredentialGateway.Proofs.Url.Confinement
import CredentialGateway.Proofs.Url.Held
import CredentialGateway.Proofs.Url.Join
import CredentialGateway.Proofs.Url.Path
import CredentialGateway.Proofs.Url.Percent
import CredentialGateway.ProxyError
import CredentialGateway.Routing
import CredentialGateway.Server.Basic
import CredentialGateway.Server.Router
import CredentialGateway.Service
import CredentialGateway.Shutdown
import CredentialGateway.Shutdown.Audience
import CredentialGateway.SocketAddress
import CredentialGateway.Strategy
import CredentialGateway.SystemError
import CredentialGateway.Text.Quoted
import CredentialGateway.Timeout
import CredentialGateway.Token.Board
import CredentialGateway.Token.Endpoint
import CredentialGateway.Token.Store
import CredentialGateway.Token.Traffic
import CredentialGateway.Toml.Document
import CredentialGateway.Toml.Scalar
import CredentialGateway.Unicode.Blank
import CredentialGateway.Unicode.CaseTable
import CredentialGateway.Unicode.DomainTable
import CredentialGateway.Unicode.LabelTable
import CredentialGateway.Unicode.LowerCase
import CredentialGateway.Unicode.Normal
import CredentialGateway.Unicode.NormalTable
import CredentialGateway.Unicode.PrintTable
import CredentialGateway.Unicode.Range
import CredentialGateway.Url.Address
import CredentialGateway.Url.Basic
import CredentialGateway.Url.Domain
import CredentialGateway.Url.Parse
import CredentialGateway.Url.Path
import CredentialGateway.Url.Percent
import CredentialGateway.Url.Punycode
