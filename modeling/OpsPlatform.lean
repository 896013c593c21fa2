import OpsPlatform.Lib.Run
import OpsPlatform.Lib.History
import OpsPlatform.Lib.Outcome
import OpsPlatform.Lib.Table
import OpsPlatform.Lib.Assoc
import OpsPlatform.Lib.Text
import OpsPlatform.Lib.Strconv
import OpsPlatform.Lib.NetAddr
import OpsPlatform.Lib.Uuid
import OpsPlatform.Lib.Json
import OpsPlatform.Lib.Utf8
import OpsPlatform.Lib.UrlQuery
import OpsPlatform.Lib.Utf16
import OpsPlatform.Lib.JsonText
import OpsPlatform.Lib.Traced
import OpsPlatform.Lib.ReadCommitted
import OpsPlatform.Lib.Writers
import OpsPlatform.Iam.Model
import OpsPlatform.Cmdb.Model
import OpsPlatform.Bastion.Model
import OpsPlatform.Sessions.Model
import OpsPlatform.Db
import OpsPlatform.Iam.Authz
import OpsPlatform.Iam.Identity
import OpsPlatform.Iam.Middleware
import OpsPlatform.Bastion.Repository
import OpsPlatform.Bastion.Handler
import OpsPlatform.Bastion.TwoPersonRule
import OpsPlatform.Bastion.Middleware
import OpsPlatform.Bastion.Lifecycle
import OpsPlatform.Bastion.Sequential
import OpsPlatform.Bastion.Interleaving
import OpsPlatform.Bastion.Listing
import OpsPlatform.Bastion.GrantWindow
import OpsPlatform.Iam.Capability
import OpsPlatform.Iam.Justification
import OpsPlatform.Iam.Matrix
import OpsPlatform.Migrations.SessionConnect
import OpsPlatform.Connectivity.Ticket
import OpsPlatform.Connectivity.Sessions
import OpsPlatform.HttpServer.Connect
import OpsPlatform.Hostkey.Repository
import OpsPlatform.Hostkey.Verifier
import OpsPlatform.Hostkey.FalseAlarm
import OpsPlatform.SshProxy.Target
import OpsPlatform.SshProxy.Repository
import OpsPlatform.Sessions.Repository
import OpsPlatform.Sessions.RecordingJanitor
import OpsPlatform.Sessions.Handler
import OpsPlatform.HttpServer.OwnRows
import OpsPlatform.Cmdb.ProbeTarget
import OpsPlatform.BastionProbe.Service
import OpsPlatform.GuacProxy.Service
import OpsPlatform.DbProxy.Service
import OpsPlatform.BastionProbe.FailClosed
import OpsPlatform.BastionProbe.RunOnce
import OpsPlatform.Terminal.Session
import OpsPlatform.Terminal.Recorder
import OpsPlatform.Terminal.Completion
import OpsPlatform.Terminal.Output
import OpsPlatform.GuacProxy.Bridge
import OpsPlatform.HttpServer.SingleWriter
import OpsPlatform.GuacProxy.Protocol
import OpsPlatform.GuacProxy.Relay
import OpsPlatform.GuacProxy.Recording
import OpsPlatform.Web.Guacamole
import OpsPlatform.Web.Sessions
import OpsPlatform.Cmdb.Connection
import OpsPlatform.Cmdb.VpcProxy
import OpsPlatform.Cmdb.VpcProxyInvariant
import OpsPlatform.Cmdb.VpcIdentity
import OpsPlatform.Cmdb.ReapplyInterleaving
import OpsPlatform.Cmdb.Asset
import OpsPlatform.Cmdb.ScopedWrite
import OpsPlatform.Cmdb.Relation
import OpsPlatform.Cmdb.ScopedPromotion
import OpsPlatform.Cmdb.AwsWriter
import OpsPlatform.Cmdb.UserEdits
import OpsPlatform.Cmdb.AwsCuration
import OpsPlatform.Cmdb.ProbeSnapshot
import OpsPlatform.Cmdb.ProbeFacts
import OpsPlatform.BastionProbe.Passes
import OpsPlatform.Cmdb.ConcurrentEdits
import OpsPlatform.Aws.Account
import OpsPlatform.Iam.Login
import OpsPlatform.Iam.RefusedLogin
import OpsPlatform.Iam.LocalIdentity
import OpsPlatform.Iam.Bootstrap
import OpsPlatform.Migrations.AssetEnrichment
import OpsPlatform.Migrations.Replay
import OpsPlatform.Lib.Items
import OpsPlatform.Iam.OidcSettings
import OpsPlatform.Iam.OidcTested
import OpsPlatform.Web.Oidc
import OpsPlatform.Iam.Redirect
import OpsPlatform.Keypair.Repository
import OpsPlatform.Keypair.Usable
import OpsPlatform.AwsSync.Service
import OpsPlatform.AwsSync.Runs
import OpsPlatform.BastionProbe.Probe
import OpsPlatform.BastionProbe.Recorded
import OpsPlatform.Cmdb.Profile
import OpsPlatform.Lib.JsText
import OpsPlatform.Cmdb.ProxyRows
import OpsPlatform.Web.SshProxy
import OpsPlatform.Cmdb.AwsRelations
import OpsPlatform.Cmdb.Fleet
import OpsPlatform.Cmdb.VpcProxyTx
import OpsPlatform.Cmdb.PromoteCycle
import OpsPlatform.Iam.Token
import OpsPlatform.Config
import OpsPlatform.Iam.ConfiguredAdmin
import OpsPlatform.BastionProbe.Endpoint
import OpsPlatform.Sessions.Retention
import OpsPlatform.GuacProxy.EndOfStream
import OpsPlatform.BastionProbe.Lifetime
import OpsPlatform.Lib.Grouping
import OpsPlatform.Web.Launch
import OpsPlatform.Terminal.Slots
import OpsPlatform.GuacProxy.Handshake
import OpsPlatform.Lib.UrlValues
import OpsPlatform.Iam.OidcClient
import OpsPlatform.Iam.SignOn
import OpsPlatform.DbProxy.Bridge
import OpsPlatform.Lib.Batches
import OpsPlatform.AwsSync.Resources
import OpsPlatform.AwsSync.Mirror
import OpsPlatform.Iam.RoleBindings
import OpsPlatform.Cmdb.AssetList
import OpsPlatform.Web.AssetList
