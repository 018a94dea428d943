import Dsql.Logic.Truth
import Dsql.Logic.FileStore
import Dsql.Logic.Faults
import Dsql.Catalog
import Dsql.Syntax
import Dsql.Resolution
import Dsql.VariablePath
import Dsql.Plan.Types
import Dsql.Plan.Connectives
import Dsql.Diagnostics
import Dsql.Policy.Index
import Dsql.Policy.Sources
import Dsql.Plan.SourcePolicies
import Dsql.Capabilities
import Dsql.Check.Assignment
import Dsql.Check.Clause
import Dsql.Policy.Activation
import Dsql.Policy.SourceActivation
import Dsql.Policy.ActivationAlgebra
import Dsql.Policy.Applicability
import Dsql.Plan.Filter
import Dsql.Plan.Supported
import Dsql.Check.Accepted
import Dsql.Plan.Clauses
import Dsql.Logic.Presence
import Dsql.Sql.Syntax
import Dsql.Sql.Semantics
import Dsql.Sql.Captures
import Dsql.Sql.Filter
import Dsql.Sql.Presence
import Dsql.Sql.NullTests
import Dsql.Plan.Pruning
import Dsql.Plan.PrunedAtoms
import Dsql.Plan.PrunedComparisons
import Dsql.Plan.PrunedTrees
import Dsql.Plan.PruningExactness
import Dsql.Pruning
import Dsql.Sql.RelationPaths
import Dsql.Sql.AnchoredPaths
import Dsql.Sql.PathExactness
import Dsql.Logic.Canonical
import Dsql.Logic.Candidates
import Dsql.Publish.MatchLock
import Dsql.Publish.CanonicalLock
import Dsql.Publish.Publication
import Dsql.Publish.AtomicWrite
import Dsql.Publish.LockGate
import Dsql.Publish.Phases
import Dsql.Publish.PublishSpec
import Dsql.Publish.PruneSpec
import Dsql.Publish.Progress
import Dsql.Publish.Coherence
import Dsql.Publish.Safety
import Dsql.Logic.Text
import Dsql.Logic.Fallible
import Dsql.Metadata
import Dsql.Runtime.Json
import Dsql.Runtime.Bindings
import Dsql.Runtime.Materialize
import Dsql.Runtime.Pieces
import Dsql.Runtime.Rendering
import Dsql.Runtime.Placeholders
import Dsql.Runtime.Shape
import Dsql.Runtime.Injection
import Dsql.Runtime.JavaScript
import Dsql.Runtime.TypeScript
import Dsql.Runtime.Envelopes
import Dsql.Runtime.DynamicOperands
import Dsql.Runtime.Isolation
import Dsql.Logic.FileTree
import Dsql.Logic.LinkedFiles
import Dsql.Logic.History
import Dsql.Daemon.Project
import Dsql.Daemon.Documents
import Dsql.Daemon.Session
import Dsql.Daemon.Ownership
import Dsql.Daemon.ColdLoad
import Dsql.Daemon.LoadedSources
import Dsql.Daemon.Loads
import Dsql.Daemon.Upserts
import Dsql.Daemon.Classification
import Dsql.Daemon.Batches
import Dsql.Daemon.Tracking
import Dsql.Daemon.Runs
import Dsql.Daemon.Replay
import Dsql.Daemon.Reservation
import Dsql.Daemon.WarmStart
import Dsql.Client.Connection
import Dsql.Client.Sessions
import Dsql.Client.Tasks
import Dsql.Client.Calls
import Dsql.Logic.Schedule
import Dsql.Client.Schedules
import Dsql.Vite.Binding
import Dsql.Vite.Epochs
import Dsql.Vite.Delivery
import Dsql.Vite.Schedules
import Dsql.Logic.Sorting
import Dsql.Logic.Measured
import Dsql.Logic.Resolver
import Dsql.Types.Capabilities
import Dsql.Types.Shapes
import Dsql.Types.Build
import Dsql.Types.Mappings
import Dsql.Types.Collecting
import Dsql.Types.Narrowing
import Dsql.Lsp.Edits
import Dsql.Logic.Traversal
import Dsql.Scopes.Imports
import Dsql.Scopes.Definitions
import Dsql.Scopes.PolicyReferences
import Dsql.Scopes.Resolution
import Dsql.Scopes.Expansion
import Dsql.Scopes.SpreadPaths
import Dsql.Scopes.Exactness
import Dsql.Results.ClauseTypes
import Dsql.Results.Encoding
import Dsql.Results.Plans
import Dsql.Results.Metadata
import Dsql.Results.Shapes
import Dsql.Results.Agreement
import Dsql.Results.Exactness
import Dsql.Results.Queries
import Dsql.Logic.Edits
import Dsql.Rewrite.Callsites
import Dsql.Rewrite.Bindings
import Dsql.Rewrite.Exactness
import Dsql.Logic.LinkedRoutes
import Dsql.Policy.Declarations
import Dsql.Policy.Compile
import Dsql.Policy.Validation
import Dsql.Policy.RowFree
import Dsql.Policy.Summary
import Dsql.Policy.Consumers
import Dsql.Render.Paths
import Dsql.Render.Reconcile
import Dsql.Render.Writes
import Dsql.Render.Sweeps
import Dsql.Render.Phases
import Dsql.Render.Exactness
import Dsql.Render.Depth
import Dsql.Regex.Expressions
import Dsql.Regex.Grammars
import Dsql.Regex.Dialects
import Dsql.Regex.Parsing
import Dsql.Types.PortablePatterns
import Dsql.Types.PatternAgreement
import Dsql.Types.PatternMeaning
import Dsql.Logic.Numbering
import Dsql.Logic.Comparisons
import Dsql.Sql.Template
import Dsql.Sql.Rendering
import Dsql.Sql.Statements
import Dsql.Sql.Mentions
import Dsql.Sql.Requests
import Dsql.Sql.FilterNumbers
import Dsql.Sql.ParameterNumbers
import Dsql.Sql.PlanNumbers
import Dsql.Sql.OrderDirections
import Dsql.Sql.PlanDirections
import Dsql.Sql.Meaning
import Dsql.Sql.Answers
import Dsql.Sql.PlanCaptures
import Dsql.Sql.Expressions
import Dsql.Sql.Selects
import Dsql.Sql.FilterMeaning
import Dsql.Sql.FilterPreservation
import Dsql.Sql.ClauseMeaning
import Dsql.Sql.FieldMeaning
import Dsql.Sql.AggregateMeaning
import Dsql.Sql.RowMeaning
import Dsql.Sql.Preservation
import Dsql.Sql.ResultColumns
import Dsql.Sql.ResultStatements
import Dsql.Cardinality.Proofs
import Dsql.Cardinality.Equalities
import Dsql.Cardinality.Guarantees
import Dsql.Cardinality.Soundness
