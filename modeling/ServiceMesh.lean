import ServiceMesh.Account.Service
import ServiceMesh.Account.Store
import ServiceMesh.Account.User
import ServiceMesh.Decimal.Shortest
import ServiceMesh.Digest.Argon2
import ServiceMesh.Digest.Blake2b
import ServiceMesh.Digest.Sha256
import ServiceMesh.Discovery.EndpointSet
import ServiceMesh.Discovery.Retry
import ServiceMesh.Discovery.Rotation
import ServiceMesh.Discovery.Watch
import ServiceMesh.Domain.Rejection
import ServiceMesh.Encoding.Base64
import ServiceMesh.Encoding.Hex
import ServiceMesh.Endpoint.Breaker
import ServiceMesh.Endpoint.Chain
import ServiceMesh.Endpoint.Config
import ServiceMesh.Endpoint.Guard
import ServiceMesh.Endpoint.Limiter
import ServiceMesh.Endpoint.Middleware
import ServiceMesh.Endpoint.Session
import ServiceMesh.Failure.Basic
import ServiceMesh.Gateway.Link
import ServiceMesh.Gateway.Rules
import ServiceMesh.Gateway.Server
import ServiceMesh.Http.Address
import ServiceMesh.Http.Cors
import ServiceMesh.Http.IpLimit
import ServiceMesh.Http.MediaType
import ServiceMesh.Http.Request
import ServiceMesh.Http.Response
import ServiceMesh.Http.Router
import ServiceMesh.Http.Serving
import ServiceMesh.Infra.Connect
import ServiceMesh.Infra.Health
import ServiceMesh.Infra.MongoAddress
import ServiceMesh.Infra.RecordFault
import ServiceMesh.Infra.StoreUrl
import ServiceMesh.Json.Fault
import ServiceMesh.Json.Reader
import ServiceMesh.Json.Shape
import ServiceMesh.Json.Value
import ServiceMesh.Password.Argon2id
import ServiceMesh.Password.Phc
import ServiceMesh.Proofs.Account.Changes
import ServiceMesh.Proofs.Account.Ledger
import ServiceMesh.Proofs.Account.LedgerLaws
import ServiceMesh.Proofs.Account.Names
import ServiceMesh.Proofs.Account.Overlap
import ServiceMesh.Proofs.Account.OverlapLaws
import ServiceMesh.Proofs.Account.Tokens
import ServiceMesh.Proofs.Account.Traffic
import ServiceMesh.Proofs.Discovery.Attempts
import ServiceMesh.Proofs.Discovery.Crowd
import ServiceMesh.Proofs.Discovery.CrowdLaws
import ServiceMesh.Proofs.Discovery.Endings
import ServiceMesh.Proofs.Discovery.Following
import ServiceMesh.Proofs.Discovery.PickLaws
import ServiceMesh.Proofs.Discovery.Pipeline
import ServiceMesh.Proofs.Discovery.PipelineLaws
import ServiceMesh.Proofs.Discovery.ReadingLaws
import ServiceMesh.Proofs.Discovery.Readings
import ServiceMesh.Proofs.Discovery.Rebuild
import ServiceMesh.Proofs.Discovery.RetryLaws
import ServiceMesh.Proofs.Discovery.Rounds
import ServiceMesh.Proofs.Discovery.Stages
import ServiceMesh.Proofs.Discovery.Unhurried
import ServiceMesh.Proofs.Domain.Wording
import ServiceMesh.Proofs.Encoding.Base64
import ServiceMesh.Proofs.Endpoint.BreakerTraffic
import ServiceMesh.Proofs.Endpoint.Built
import ServiceMesh.Proofs.Endpoint.FateLaws
import ServiceMesh.Proofs.Endpoint.Nesting
import ServiceMesh.Proofs.Endpoint.NestingLaws
import ServiceMesh.Proofs.Endpoint.Periods
import ServiceMesh.Proofs.Endpoint.Quotas
import ServiceMesh.Proofs.Endpoint.Rates
import ServiceMesh.Proofs.Endpoint.Sessions
import ServiceMesh.Proofs.Endpoint.Trials
import ServiceMesh.Proofs.Endpoint.Visits
import ServiceMesh.Proofs.Failure.Disclosure
import ServiceMesh.Proofs.Failure.Hops
import ServiceMesh.Proofs.Gateway.Dialling
import ServiceMesh.Proofs.Gateway.Namesakes
import ServiceMesh.Proofs.Gateway.Origins
import ServiceMesh.Proofs.Gateway.Relay
import ServiceMesh.Proofs.Http.ClientLimit
import ServiceMesh.Proofs.Http.RequestIds
import ServiceMesh.Proofs.Http.Slots
import ServiceMesh.Proofs.Http.ServingLaws
import ServiceMesh.Proofs.Json.Grammar
import ServiceMesh.Proofs.Json.Members
import ServiceMesh.Proofs.Json.Passing
import ServiceMesh.Proofs.Json.Reading
import ServiceMesh.Proofs.Json.Records
import ServiceMesh.Proofs.Json.Shapes
import ServiceMesh.Proofs.Registry.Addressing
import ServiceMesh.Proofs.Registry.Announcements
import ServiceMesh.Proofs.Registry.Calls
import ServiceMesh.Proofs.Registry.Entries
import ServiceMesh.Proofs.Registry.History
import ServiceMesh.Proofs.Registry.QueryLaws
import ServiceMesh.Proofs.Registry.QueryReads
import ServiceMesh.Proofs.Registry.QueryTraffic
import ServiceMesh.Proofs.Service.Calm
import ServiceMesh.Proofs.Service.CalmWork
import ServiceMesh.Proofs.Service.Replies
import ServiceMesh.Proofs.Service.Standing
import ServiceMesh.Proofs.Service.Sums
import ServiceMesh.Proofs.Service.Traffic
import ServiceMesh.Proofs.Service.Transports
import ServiceMesh.Proofs.Settings.Clock
import ServiceMesh.Proofs.Settings.LoadingLaws
import ServiceMesh.Proofs.Settings.Production
import ServiceMesh.Proofs.Settings.Variables
import ServiceMesh.Proofs.Text.Utf8
import ServiceMesh.Proofs.Token.Carried
import ServiceMesh.Proofs.Token.Validity
import ServiceMesh.Proofs.Web.Bases
import ServiceMesh.Proofs.Web.Escapes
import ServiceMesh.Proofs.Web.Paths
import ServiceMesh.Registry.Consul
import ServiceMesh.Registry.Instance
import ServiceMesh.Registry.Memory
import ServiceMesh.Registry.Registration
import ServiceMesh.Report.Basic
import ServiceMesh.Report.Operation
import ServiceMesh.Report.Settings
import ServiceMesh.Report.Token
import ServiceMesh.Rpc.Health
import ServiceMesh.Rpc.Metadata
import ServiceMesh.Rpc.Status
import ServiceMesh.Service.Adding
import ServiceMesh.Service.HttpApi
import ServiceMesh.Service.Lifecycle
import ServiceMesh.Service.Operation
import ServiceMesh.Service.RpcApi
import ServiceMesh.Service.Server
import ServiceMesh.Service.Texts
import ServiceMesh.Settings.Dotenv
import ServiceMesh.Settings.Environment
import ServiceMesh.Settings.File
import ServiceMesh.Settings.Process
import ServiceMesh.Settings.Setting
import ServiceMesh.Settings.Toml
import ServiceMesh.Telemetry.Act
import ServiceMesh.Telemetry.Note
import ServiceMesh.Text.Blank
import ServiceMesh.Text.Integer
import ServiceMesh.Text.PrintableTable
import ServiceMesh.Text.Quoted
import ServiceMesh.Text.RandomId
import ServiceMesh.Text.Ranges
import ServiceMesh.Text.Span
import ServiceMesh.Text.Upper
import ServiceMesh.Text.UpperTable
import ServiceMesh.Token.Claims
import ServiceMesh.Token.Fault
import ServiceMesh.Token.Header
import ServiceMesh.Token.Signed
import ServiceMesh.Trace.Context
import ServiceMesh.Web.Client
import ServiceMesh.Web.Host
import ServiceMesh.Web.Percent
import ServiceMesh.Web.Reach
import ServiceMesh.Web.RemoteUri
import ServiceMesh.Web.Url
