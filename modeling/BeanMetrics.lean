import BeanMetrics.Agent.Assembly
import BeanMetrics.Agent.Basic
import BeanMetrics.Agent.Client
import BeanMetrics.Agent.Error
import BeanMetrics.Agent.Reply
import BeanMetrics.Agent.ReplyValue
import BeanMetrics.Attribute.Descriptor
import BeanMetrics.Attribute.Value
import BeanMetrics.Binary64.Basic
import BeanMetrics.Binary64.Shortest
import BeanMetrics.Binary64.Text
import BeanMetrics.Collection.Engine
import BeanMetrics.Collection.Pass
import BeanMetrics.Collection.Source
import BeanMetrics.Collection.Store
import BeanMetrics.Collection.Telemetry
import BeanMetrics.CommandLine.Arguments
import BeanMetrics.CommandLine.Basic
import BeanMetrics.CommandLine.Override
import BeanMetrics.Config.Basic
import BeanMetrics.Config.Document
import BeanMetrics.Config.Redacted
import BeanMetrics.Json.Basic
import BeanMetrics.Json.Printer
import BeanMetrics.Json.Written
import BeanMetrics.KeyMap
import BeanMetrics.Main
import BeanMetrics.Metric.Exposition
import BeanMetrics.Metric.FamilyMap
import BeanMetrics.Metric.Name
import BeanMetrics.Metric.Sample
import BeanMetrics.Net.IpAddress
import BeanMetrics.Net.ListenAddress
import BeanMetrics.Net.Url
import BeanMetrics.ObjectName.Basic
import BeanMetrics.ObjectName.Glob
import BeanMetrics.ObjectName.Pattern
import BeanMetrics.Proofs.Collection.Exposure
import BeanMetrics.Proofs.Collection.Isolation
import BeanMetrics.Proofs.Collection.Run
import BeanMetrics.Proofs.Collection.StableGrouping
import BeanMetrics.Proofs.Collection.Trace
import BeanMetrics.Proofs.Collection.UniqueSeries
import BeanMetrics.Proofs.Exposition.Decoder
import BeanMetrics.Proofs.Exposition.Lossless
import BeanMetrics.Proofs.Metric.Grouping
import BeanMetrics.Proofs.Metric.Series
import BeanMetrics.Proofs.Recorder.Exposure
import BeanMetrics.Proofs.Recorder.Handlers
import BeanMetrics.Proofs.Recorder.Quantity
import BeanMetrics.Proofs.Recorder.Traffic
import BeanMetrics.Proofs.Text.Split
import BeanMetrics.Recorder.Basic
import BeanMetrics.Recorder.Handlers
import BeanMetrics.Recorder.Kinds
import BeanMetrics.Recorder.Node
import BeanMetrics.Recorder.Pool
import BeanMetrics.Recorder.Traffic
import BeanMetrics.Registry.Basic
import BeanMetrics.Registry.Snapshot
import BeanMetrics.Service.Basic
import BeanMetrics.Service.Error
import BeanMetrics.Service.Query
import BeanMetrics.Service.Router
import BeanMetrics.Text.Base64
import BeanMetrics.Text.CaseTable
import BeanMetrics.Text.Digits
import BeanMetrics.Text.LowerCase
import BeanMetrics.Text.Percent
import BeanMetrics.Text.Regex
import BeanMetrics.Text.Split
import BeanMetrics.Text.Utf8
import BeanMetrics.Yaml.Node
import BeanMetrics.Yaml.Printer
import BeanMetrics.Yaml.Scalar
import BeanMetrics.Yaml.Token
import BeanMetrics.Proofs.Collection.Writes
import BeanMetrics.Proofs.Service.Interleaving
import BeanMetrics.Proofs.Collection.Contribution
import BeanMetrics.Proofs.Collection.Counts
import BeanMetrics.Proofs.Registry.Distinct
import BeanMetrics.Proofs.Collection.Listing
import BeanMetrics.Proofs.Collection.ObjectOrder
import BeanMetrics.Proofs.Collection.Fault
import BeanMetrics.Proofs.Collection.Violation
import BeanMetrics.Proofs.Collection.Accounts
import BeanMetrics.Proofs.Config.Valid
import BeanMetrics.Proofs.Recorder.Metrics
import BeanMetrics.Proofs.Collection.Fallback
import BeanMetrics.Proofs.Exposition.TypeLines
import BeanMetrics.Proofs.Collection.Names
import BeanMetrics.Proofs.Service.Families
import BeanMetrics.Proofs.ObjectName.Written
import BeanMetrics.Proofs.Json.Ordered
import BeanMetrics.Proofs.Registry.Join
import BeanMetrics.Proofs.Agent.Conversation
import BeanMetrics.Proofs.Agent.Described
import BeanMetrics.Proofs.Collection.LegalNames
import BeanMetrics.Proofs.ObjectName.Matching
import BeanMetrics.Proofs.Service.Routing
import BeanMetrics.Proofs.Yaml.Mapping
import BeanMetrics.Proofs.CommandLine.Precedence
import BeanMetrics.Proofs.Collection.NamespacePrefix
import BeanMetrics.Proofs.ObjectName.Grammar
import BeanMetrics.Proofs.Agent.ExactRead
import BeanMetrics.Proofs.Metric.NormalForm
import BeanMetrics.Proofs.Recorder.Introduction
import BeanMetrics.Proofs.Recorder.Flattening
import BeanMetrics.Proofs.Text.Digits
import BeanMetrics.Proofs.Text.Regex
import BeanMetrics.Proofs.Collection.StoredValues
import BeanMetrics.Proofs.Registry.Building
import BeanMetrics.Proofs.Net.Ipv4
import BeanMetrics.Proofs.Net.Ipv6
import BeanMetrics.Proofs.Net.ListenAddress
import BeanMetrics.Proofs.Registry.Reordered
