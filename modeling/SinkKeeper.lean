import SinkKeeper.Address
import SinkKeeper.CommandLine.Arguments
import SinkKeeper.CommandLine.Ensure
import SinkKeeper.Dialect
import SinkKeeper.Dialect.Basic
import SinkKeeper.Dialect.Clickhouse
import SinkKeeper.Dialect.Hive
import SinkKeeper.Dialect.Mysql
import SinkKeeper.Entries
import SinkKeeper.Environment.Basic
import SinkKeeper.Environment.Limits
import SinkKeeper.Environment.Loading
import SinkKeeper.Environment.Settings
import SinkKeeper.Failure
import SinkKeeper.Fault
import SinkKeeper.Files.Folder
import SinkKeeper.Json.Basic
import SinkKeeper.Json.Display
import SinkKeeper.Json.Equality
import SinkKeeper.Json.Parser
import SinkKeeper.Json.Printer
import SinkKeeper.Main
import SinkKeeper.Note
import SinkKeeper.Number.Double
import SinkKeeper.Number.Reading
import SinkKeeper.Number.Shortest
import SinkKeeper.Number.Written
import SinkKeeper.Proofs.Accepted
import SinkKeeper.Proofs.Answers
import SinkKeeper.Proofs.Builders
import SinkKeeper.Proofs.Closed
import SinkKeeper.Proofs.ColumnLists
import SinkKeeper.Proofs.Convergence
import SinkKeeper.Proofs.Ends
import SinkKeeper.Proofs.Honest
import SinkKeeper.Proofs.Items
import SinkKeeper.Proofs.Keeper
import SinkKeeper.Proofs.Lexing
import SinkKeeper.Proofs.Proceeds
import SinkKeeper.Proofs.Together
import SinkKeeper.Reconcile
import SinkKeeper.Runtime
import SinkKeeper.Schema.Column
import SinkKeeper.Schema.File
import SinkKeeper.Schema.Report
import SinkKeeper.Schema.Table
import SinkKeeper.Server.Basic
import SinkKeeper.Server.Catalog
import SinkKeeper.Server.Execution
import SinkKeeper.Server.Script
import SinkKeeper.Shape
import SinkKeeper.Sink
import SinkKeeper.Sql.Token
import SinkKeeper.Text.Blank
import SinkKeeper.Text.Case
import SinkKeeper.Text.Case.Table
import SinkKeeper.Text.Digit
import SinkKeeper.Text.Encoding
import SinkKeeper.Text.Form
import SinkKeeper.Text.Printable
import SinkKeeper.Text.Quoted
import SinkKeeper.Text.Search
import SinkKeeper.Text.Utf8
import SinkKeeper.Token
import SinkKeeper.Topic.Broker
import SinkKeeper.Topic.Cloning
import SinkKeeper.Topic.Configuration
import SinkKeeper.Topic.Master
import SinkKeeper.Topic.Proxy
import SinkKeeper.Topic.Verdict
import SinkKeeper.Web.App
import SinkKeeper.Web.Form
import SinkKeeper.Web.Message
import SinkKeeper.Web.OnDemand
import SinkKeeper.Web.Route
import SinkKeeper.Proofs.Refusals
import SinkKeeper.Proofs.Halts
import SinkKeeper.Proofs.Executions
import SinkKeeper.Proofs.Operations
import SinkKeeper.Proofs.Sessions
import SinkKeeper.Proofs.Lifecycle
import SinkKeeper.Proofs.Reports
import SinkKeeper.Proofs.Effects
import SinkKeeper.Proofs.Rejections
import SinkKeeper.Proofs.Crowd
import SinkKeeper.Proofs.Dispatch
import SinkKeeper.Proofs.Growth
import SinkKeeper.Proofs.Secrecy
import SinkKeeper.Proofs.Shared
import SinkKeeper.Proofs.Forms
import SinkKeeper.Proofs.Exchanges
import SinkKeeper.Proofs.Forwarding
import SinkKeeper.Proofs.Replies
import SinkKeeper.Proofs.RegularReplies
import SinkKeeper.Proofs.Clones
import SinkKeeper.Proofs.Guard
import SinkKeeper.Proofs.Apart
import SinkKeeper.Proofs.Lookups
import SinkKeeper.Proofs.Precedence
import SinkKeeper.Proofs.Fronts
import SinkKeeper.Proofs.Expressions
import SinkKeeper.Proofs.BadAddresses
import SinkKeeper.Proofs.Parameters
import SinkKeeper.Proofs.Services
import SinkKeeper.Proofs.Targets
import SinkKeeper.Proofs.Descriptions
import SinkKeeper.Proofs.Wording
import SinkKeeper.Proofs.Observations
import SinkKeeper.Proofs.Making
import SinkKeeper.Proofs.Numerals
import SinkKeeper.Proofs.Codes
import SinkKeeper.Proofs.LetterCase
import SinkKeeper.Proofs.BearerTokens
import SinkKeeper.Proofs.TopicLookups
import SinkKeeper.Proofs.WritePermission
import SinkKeeper.Proofs.PartitionColumns
import SinkKeeper.Proofs.Overflow
import SinkKeeper.Proofs.Decimals
import SinkKeeper.Proofs.Waits
import SinkKeeper.Proofs.Clusters
import SinkKeeper.Proofs.CloneForms
import SinkKeeper.Proofs.TableByTable
import SinkKeeper.Proofs.Literals
import SinkKeeper.Proofs.Redacted
import SinkKeeper.Proofs.ReturnedColumns
