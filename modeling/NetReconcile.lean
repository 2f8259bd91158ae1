import NetReconcile.Config.Registry
import NetReconcile.Config.Settings
import NetReconcile.Config.Spec
import NetReconcile.Decimal.Binary64
import NetReconcile.Digest.Sha256
import NetReconcile.Engine.Connector
import NetReconcile.Engine.Cycle
import NetReconcile.Engine.LibraryError
import NetReconcile.Engine.Lifecycle
import NetReconcile.Engine.Provider
import NetReconcile.Json.Decode
import NetReconcile.Json.Plain
import NetReconcile.Json.Reader
import NetReconcile.Json.Record
import NetReconcile.Json.Value
import NetReconcile.Kinds.Catalog
import NetReconcile.Kinds.Codes
import NetReconcile.Kinds.ElasticIp
import NetReconcile.Kinds.NatGateway
import NetReconcile.Kinds.SecurityGroup
import NetReconcile.Kinds.SecurityGroupRule
import NetReconcile.Kinds.SnatRule
import NetReconcile.Kinds.Subnet
import NetReconcile.Kinds.Vpc
import NetReconcile.Resource.Condition
import NetReconcile.Resource.Errors
import NetReconcile.Resource.Kind
import NetReconcile.Resource.Managed
import NetReconcile.Resource.Meta
import NetReconcile.Resource.Rules
import NetReconcile.Resource.Status
import NetReconcile.Secrets.Credentials
import NetReconcile.Secrets.Store
import NetReconcile.Service.Answer
import NetReconcile.Service.Configs
import NetReconcile.Service.Diagnostics
import NetReconcile.Service.Dispatch
import NetReconcile.Service.Kinds
import NetReconcile.Service.Model
import NetReconcile.Service.Scenario
import NetReconcile.Service.Secrets
import NetReconcile.Service.Sessions
import NetReconcile.Session.Auth
import NetReconcile.Session.Cache
import NetReconcile.Text.Quoted
import NetReconcile.Time.Span
import NetReconcile.Time.Timestamp
import NetReconcile.Toml.Document
import NetReconcile.Toml.Parse
import NetReconcile.Unicode.Bidi
import NetReconcile.Unicode.Category
import NetReconcile.Unicode.CombiningClass
import NetReconcile.Unicode.Decomposition
import NetReconcile.Unicode.Joining
import NetReconcile.Unicode.Normalization
import NetReconcile.Unicode.Printable
import NetReconcile.Unicode.Table
import NetReconcile.Unicode.Case
import NetReconcile.Web.Host
import NetReconcile.Web.Idna
import NetReconcile.Web.Idna.Status
import NetReconcile.Web.Punycode
import NetReconcile.Web.Url
import NetReconcile.Proofs.Provider
import NetReconcile.Proofs.Lifecycle
import NetReconcile.Proofs.Rules
import NetReconcile.Proofs.Kinds
import NetReconcile.Proofs.Cycle
import NetReconcile.Proofs.SessionCache
import NetReconcile.Proofs.Fingerprint
import NetReconcile.Proofs.SessionRun
import NetReconcile.Proofs.Connection
import NetReconcile.Proofs.Healthy
import NetReconcile.Proofs.Identity
import NetReconcile.Proofs.Convergence
import NetReconcile.Proofs.Settling
import NetReconcile.Proofs.Adoption
import NetReconcile.Proofs.Records
import NetReconcile.Proofs.Calendar
import NetReconcile.Proofs.TimestampText
import NetReconcile.Proofs.KindCodecs
import NetReconcile.Proofs.WireFormat
import NetReconcile.Proofs.LateInitialization
import NetReconcile.Proofs.ImmutableFields
import NetReconcile.Proofs.CycleStatus
import NetReconcile.Proofs.Reporting
import NetReconcile.Proofs.ConfigIdentity
import NetReconcile.Proofs.ExternalName
import NetReconcile.Proofs.ConfigFile
import NetReconcile.Proofs.Utf8Order
import NetReconcile.Proofs.SecretStore
import NetReconcile.Proofs.ResourceStore
import NetReconcile.Proofs.SizeCodes
import NetReconcile.Proofs.ReaderSteps
import NetReconcile.Proofs.JsonStrings
import NetReconcile.Proofs.WrittenNumbers
import NetReconcile.Proofs.WrittenValues
import NetReconcile.Proofs.StringRecords
import NetReconcile.Proofs.CredentialResolution
