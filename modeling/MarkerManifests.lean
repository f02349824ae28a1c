import MarkerManifests.Access.Marker
import MarkerManifests.Access.Role
import MarkerManifests.Access.Rule
import MarkerManifests.Diagnostic
import MarkerManifests.Diagnostic.Document
import MarkerManifests.Gate.Expr
import MarkerManifests.Gate.Reader
import MarkerManifests.Gate.State
import MarkerManifests.Generator.Artifact
import MarkerManifests.Generator.Command
import MarkerManifests.Generator.Configuration
import MarkerManifests.Generator.FilePath
import MarkerManifests.Generator.FileTree
import MarkerManifests.Generator.Help
import MarkerManifests.Generator.Host
import MarkerManifests.Generator.Invocation
import MarkerManifests.Generator.Loader
import MarkerManifests.Generator.Pipeline
import MarkerManifests.Graph.Basic
import MarkerManifests.Graph.Document
import MarkerManifests.Graph.TypeGraph
import MarkerManifests.Json.Basic
import MarkerManifests.Json.Printer
import MarkerManifests.Json.Reader
import MarkerManifests.Json.Record
import MarkerManifests.Location
import MarkerManifests.Main
import MarkerManifests.Marker.Arguments
import MarkerManifests.Marker.Basic
import MarkerManifests.Marker.Comment
import MarkerManifests.Marker.Definition
import MarkerManifests.Marker.Document
import MarkerManifests.Marker.FieldPath
import MarkerManifests.Marker.Index
import MarkerManifests.Marker.Line
import MarkerManifests.Marker.Quoting
import MarkerManifests.Marker.Registry
import MarkerManifests.Marker.SubRecord
import MarkerManifests.Metrics.Collection
import MarkerManifests.Metrics.Configuration
import MarkerManifests.Number.Basic
import MarkerManifests.Number.Decimal
import MarkerManifests.Number.Double
import MarkerManifests.Number.Integer
import MarkerManifests.Number.Reader
import MarkerManifests.Number.Shortest
import MarkerManifests.Ordered.Entries
import MarkerManifests.Ordered.NameMap
import MarkerManifests.Ordered.NameSet
import MarkerManifests.Proofs.Access.Enabling
import MarkerManifests.Proofs.Access.Grant
import MarkerManifests.Proofs.Access.Grouping
import MarkerManifests.Proofs.Access.Merging
import MarkerManifests.Proofs.Access.Placing
import MarkerManifests.Proofs.Access.Scope
import MarkerManifests.Proofs.Access.Target
import MarkerManifests.Proofs.Gate.Acceptance
import MarkerManifests.Proofs.Gate.Configuration
import MarkerManifests.Proofs.Gate.Evaluation
import MarkerManifests.Proofs.Gate.Grammar
import MarkerManifests.Proofs.Gate.Joining
import MarkerManifests.Proofs.Gate.Naming
import MarkerManifests.Proofs.Gate.Rendering
import MarkerManifests.Proofs.Gate.RoundTrip
import MarkerManifests.Proofs.Gate.Viability
import MarkerManifests.Proofs.Generator.Ignored
import MarkerManifests.Proofs.Generator.Stream
import MarkerManifests.Proofs.Graph.Completion
import MarkerManifests.Proofs.Graph.Heeded
import MarkerManifests.Proofs.Graph.Merging
import MarkerManifests.Proofs.Graph.NormalForm
import MarkerManifests.Proofs.Graph.Resolving
import MarkerManifests.Proofs.Json.RoundTrip
import MarkerManifests.Proofs.Marker.Canonical
import MarkerManifests.Proofs.Marker.Collected
import MarkerManifests.Proofs.Marker.Decoding
import MarkerManifests.Proofs.Marker.Encoding
import MarkerManifests.Proofs.Marker.FieldPath
import MarkerManifests.Proofs.Marker.Grouping
import MarkerManifests.Proofs.Marker.Indexed
import MarkerManifests.Proofs.Marker.Lines
import MarkerManifests.Proofs.Marker.NamedArguments
import MarkerManifests.Proofs.Marker.Nesting
import MarkerManifests.Proofs.Marker.Occurrence
import MarkerManifests.Proofs.Marker.Placed
import MarkerManifests.Proofs.Marker.Quoting
import MarkerManifests.Proofs.Marker.Registration
import MarkerManifests.Proofs.Marker.Resolution
import MarkerManifests.Proofs.Marker.Single
import MarkerManifests.Proofs.Marker.Splitting
import MarkerManifests.Proofs.Marker.Stability
import MarkerManifests.Proofs.Marker.SubRecord
import MarkerManifests.Proofs.Marker.Values
import MarkerManifests.Proofs.Metrics.Accounts
import MarkerManifests.Proofs.Metrics.Entries
import MarkerManifests.Proofs.Metrics.Paths
import MarkerManifests.Proofs.Metrics.Reaching
import MarkerManifests.Proofs.Metrics.Roots
import MarkerManifests.Proofs.Metrics.Termination
import MarkerManifests.Proofs.Metrics.Walk
import MarkerManifests.Proofs.Number.Decimal
import MarkerManifests.Proofs.Number.Reading
import MarkerManifests.Proofs.Ordered.Entries
import MarkerManifests.Proofs.Ordered.FirstOccurrences
import MarkerManifests.Proofs.Outcomes
import MarkerManifests.Proofs.Schema.Accounting
import MarkerManifests.Proofs.Schema.Acyclic
import MarkerManifests.Proofs.Schema.Alike
import MarkerManifests.Proofs.Schema.Answers
import MarkerManifests.Proofs.Schema.Bounds
import MarkerManifests.Proofs.Schema.Compositions
import MarkerManifests.Proofs.Schema.Cycles
import MarkerManifests.Proofs.Schema.Decoration
import MarkerManifests.Proofs.Schema.Descent
import MarkerManifests.Proofs.Schema.Failures
import MarkerManifests.Proofs.Schema.Families
import MarkerManifests.Proofs.Schema.Frame
import MarkerManifests.Proofs.Schema.GatedUnions
import MarkerManifests.Proofs.Schema.Heeded
import MarkerManifests.Proofs.Schema.Ledger
import MarkerManifests.Proofs.Schema.ListKeys
import MarkerManifests.Proofs.Schema.Locality
import MarkerManifests.Proofs.Schema.Naming
import MarkerManifests.Proofs.Schema.Order
import MarkerManifests.Proofs.Schema.Parts
import MarkerManifests.Proofs.Schema.Plain
import MarkerManifests.Proofs.Schema.Positions
import MarkerManifests.Proofs.Schema.Properties
import MarkerManifests.Proofs.Schema.Pruned
import MarkerManifests.Proofs.Schema.Related
import MarkerManifests.Proofs.Schema.Request
import MarkerManifests.Proofs.Schema.Required
import MarkerManifests.Proofs.Schema.RuleGrammar
import MarkerManifests.Proofs.Schema.Shaping
import MarkerManifests.Proofs.Schema.Survivors
import MarkerManifests.Proofs.Schema.Termination
import MarkerManifests.Proofs.Schema.UnionFailures
import MarkerManifests.Proofs.Schema.Unions
import MarkerManifests.Proofs.Schema.Versions
import MarkerManifests.Proofs.Schema.Walk
import MarkerManifests.Proofs.Text.Cutting
import MarkerManifests.Proofs.Text.Escaping
import MarkerManifests.Proofs.Text.Lines
import MarkerManifests.Proofs.Vocabulary.Canonical
import MarkerManifests.Proofs.Vocabulary.Encoding
import MarkerManifests.Proofs.Webhook.Check
import MarkerManifests.Proofs.Webhook.Faults
import MarkerManifests.Proofs.Webhook.Greedy
import MarkerManifests.Proofs.Webhook.Lifecycle
import MarkerManifests.Proofs.Webhook.Names
import MarkerManifests.Proofs.Webhook.Published
import MarkerManifests.Proofs.Webhook.Record
import MarkerManifests.Proofs.Webhook.Selection
import MarkerManifests.Proofs.Yaml.Lines
import MarkerManifests.Schema.Constraint
import MarkerManifests.Schema.Document
import MarkerManifests.Schema.Error
import MarkerManifests.Schema.Node
import MarkerManifests.Schema.Resource
import MarkerManifests.Schema.Rule
import MarkerManifests.Schema.Shaping
import MarkerManifests.Schema.Synthesis
import MarkerManifests.Schema.Union
import MarkerManifests.Text.Blank
import MarkerManifests.Text.Displayed
import MarkerManifests.Text.Hidden
import MarkerManifests.Text.Lowercase
import MarkerManifests.Text.Pieces
import MarkerManifests.Text.Ranges
import MarkerManifests.Vocabulary.Access
import MarkerManifests.Vocabulary.Complete
import MarkerManifests.Vocabulary.GroupVersion
import MarkerManifests.Vocabulary.Metrics
import MarkerManifests.Vocabulary.Schema
import MarkerManifests.Vocabulary.Webhook
import MarkerManifests.Webhook.Assembly
import MarkerManifests.Webhook.Configuration
import MarkerManifests.Webhook.Entry
import MarkerManifests.Webhook.Record
import MarkerManifests.Webhook.Request
import MarkerManifests.Webhook.Selector
import MarkerManifests.Yaml.Character
import MarkerManifests.Yaml.Cursor
import MarkerManifests.Yaml.Flow
import MarkerManifests.Yaml.Plain
import MarkerManifests.Yaml.Printer
import MarkerManifests.Yaml.Quoted
import MarkerManifests.Yaml.Reader
import MarkerManifests.Yaml.Scalar
import MarkerManifests.Yaml.Tree
