import Tabulation.Analysis.Basic
import Tabulation.Analysis.DeadStore
import Tabulation.Analysis.Nullness
import Tabulation.Analysis.Taint
import Tabulation.Cli.Command
import Tabulation.Cli.Flags
import Tabulation.Cli.Hint
import Tabulation.Cli.Run
import Tabulation.Cli.Usage
import Tabulation.Config.Basic
import Tabulation.Config.Document
import Tabulation.Config.Identifier
import Tabulation.Digraph.Basic
import Tabulation.Digraph.Components
import Tabulation.Digraph.Cycles
import Tabulation.Digraph.Tables
import Tabulation.Engine.Basic
import Tabulation.Engine.Network
import Tabulation.Engine.Routing
import Tabulation.Engine.Session
import Tabulation.Files
import Tabulation.Hash
import Tabulation.Hierarchy
import Tabulation.Hierarchy.Session
import Tabulation.Log
import Tabulation.Mailbox.Concurrent
import Tabulation.Mailbox.Future
import Tabulation.Mailbox.Script
import Tabulation.Mailbox.System
import Tabulation.Main
import Tabulation.Memo
import Tabulation.Pattern.Basic
import Tabulation.Pattern.Builder
import Tabulation.Pattern.CharSet
import Tabulation.Pattern.Draft
import Tabulation.Pattern.Machine
import Tabulation.Pattern.Parser
import Tabulation.Pattern.Program
import Tabulation.Pattern.SinglePass
import Tabulation.Program.Basic
import Tabulation.Program.Calls
import Tabulation.Program.Document
import Tabulation.Program.Partition
import Tabulation.Program.Stats
import Tabulation.Proofs.Acceptance
import Tabulation.Proofs.Analyses
import Tabulation.Proofs.Ancestry
import Tabulation.Proofs.Announcements
import Tabulation.Proofs.Backtracking
import Tabulation.Proofs.BlockedSearch
import Tabulation.Proofs.CallGraph
import Tabulation.Proofs.CallResolution
import Tabulation.Proofs.Collection
import Tabulation.Proofs.Concurrency
import Tabulation.Proofs.Condensation
import Tabulation.Proofs.Confluence
import Tabulation.Proofs.ConnectedComponents
import Tabulation.Proofs.Contents
import Tabulation.Proofs.ControlFlow
import Tabulation.Proofs.DeadDefinitions
import Tabulation.Proofs.Declarations
import Tabulation.Proofs.Delivery
import Tabulation.Proofs.Deployment
import Tabulation.Proofs.DepthFirst
import Tabulation.Proofs.Derivations
import Tabulation.Proofs.DynamicDispatch
import Tabulation.Proofs.ElementaryCycles
import Tabulation.Proofs.Executions
import Tabulation.Proofs.FindingTraces
import Tabulation.Proofs.FiniteFlow
import Tabulation.Proofs.FlowRules
import Tabulation.Proofs.Gathering
import Tabulation.Proofs.GraphViews
import Tabulation.Proofs.Grouping
import Tabulation.Proofs.GrowingGraphs
import Tabulation.Proofs.Halting
import Tabulation.Proofs.Interruptions
import Tabulation.Proofs.Isolation
import Tabulation.Proofs.JointEntries
import Tabulation.Proofs.LastingTaint
import Tabulation.Proofs.LeastSolution
import Tabulation.Proofs.Ledgers
import Tabulation.Proofs.Loading
import Tabulation.Proofs.MailboxOrder
import Tabulation.Proofs.MergedHistories
import Tabulation.Proofs.MethodLookup
import Tabulation.Proofs.Notifications
import Tabulation.Proofs.NullSoundness
import Tabulation.Proofs.NumberedGraphs
import Tabulation.Proofs.Outcomes
import Tabulation.Proofs.Ownership
import Tabulation.Proofs.PackedValues
import Tabulation.Proofs.Quiescence
import Tabulation.Proofs.RealizablePaths
import Tabulation.Proofs.RecursionStatistics
import Tabulation.Proofs.ReportRoundTrip
import Tabulation.Proofs.Retracing
import Tabulation.Proofs.Routes
import Tabulation.Proofs.Schedule
import Tabulation.Proofs.Searching
import Tabulation.Proofs.SerialOrder
import Tabulation.Proofs.Sessions
import Tabulation.Proofs.SimplePaths
import Tabulation.Proofs.Snapshots
import Tabulation.Proofs.StackLines
import Tabulation.Proofs.StoreHistory
import Tabulation.Proofs.Subtypes
import Tabulation.Proofs.TaintMonotone
import Tabulation.Proofs.TaintSoundness
import Tabulation.Proofs.Termination
import Tabulation.Proofs.TextOrder
import Tabulation.Proofs.ThreadCode
import Tabulation.Proofs.ThreadSteps
import Tabulation.Proofs.Timelines
import Tabulation.Proofs.TracePaths
import Tabulation.Proofs.TraceSearch
import Tabulation.Proofs.TypeQueries
import Tabulation.Report.Basic
import Tabulation.Report.File
import Tabulation.Report.Packed
import Tabulation.Search
import Tabulation.Solver.Backtrack
import Tabulation.Solver.Dispatch
import Tabulation.Solver.Edge
import Tabulation.Solver.Flow
import Tabulation.Solver.Ledger
import Tabulation.Solver.Message
import Tabulation.Solver.Recall
import Tabulation.Solver.Registry
import Tabulation.Solver.Retrace
import Tabulation.Solver.Solution
import Tabulation.Solver.Store
import Tabulation.Solver.Table
import Tabulation.Solver.Trace
import Tabulation.Ssa.Basic
import Tabulation.Ssa.Calls
import Tabulation.Ssa.Directive
import Tabulation.Ssa.Document
import Tabulation.Ssa.Taint
import Tabulation.Text.Bytes
import Tabulation.Text.Category
import Tabulation.Text.Duration
import Tabulation.Text.Fields
import Tabulation.Text.Fold
import Tabulation.Text.Lower
import Tabulation.Text.Order
import Tabulation.Text.Path
import Tabulation.Text.Quoted
import Tabulation.Text.Runs
import Tabulation.Text.Script
import Tabulation.Text.Styled
import Tabulation.Yaml.Chunk
import Tabulation.Yaml.Cursor
import Tabulation.Yaml.Decode
import Tabulation.Yaml.Node
import Tabulation.Yaml.Scalar
import Tabulation.Yaml.Token
import Tabulation.Yaml.Value
