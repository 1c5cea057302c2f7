import WorkflowEngine.Action.Builtin
import WorkflowEngine.Action.Handler
import WorkflowEngine.Action.Registry
import WorkflowEngine.Action.Sample
import WorkflowEngine.Call.Aggregate
import WorkflowEngine.Call.Arguments
import WorkflowEngine.Call.Conversion
import WorkflowEngine.Call.Method
import WorkflowEngine.Call.Routine
import WorkflowEngine.Condition
import WorkflowEngine.Config.Basic
import WorkflowEngine.Config.Bindings
import WorkflowEngine.Data.Basic
import WorkflowEngine.Data.Copy
import WorkflowEngine.Data.Comparison
import WorkflowEngine.Data.Sorting
import WorkflowEngine.Data.Text
import WorkflowEngine.Decimal.Binary64
import WorkflowEngine.Decimal.Layout
import WorkflowEngine.Decimal.Numeral
import WorkflowEngine.Definition.Basic
import WorkflowEngine.Definition.Kind
import WorkflowEngine.Definition.Reader
import WorkflowEngine.Definition.Record
import WorkflowEngine.Definition.Writer
import WorkflowEngine.Engine.Basic
import WorkflowEngine.Engine.Perform
import WorkflowEngine.Engine.Run
import WorkflowEngine.Engine.Scene
import WorkflowEngine.Engine.Visit
import WorkflowEngine.Engine.Walk
import WorkflowEngine.Expression.Escape
import WorkflowEngine.Expression.Evaluation
import WorkflowEngine.Expression.Evaluator
import WorkflowEngine.Expression.Lexer
import WorkflowEngine.Expression.Limit
import WorkflowEngine.Expression.Parser
import WorkflowEngine.Expression.Program
import WorkflowEngine.Expression.Template
import WorkflowEngine.Expression.Tree
import WorkflowEngine.Fault
import WorkflowEngine.Http.Client
import WorkflowEngine.Journal.Entry
import WorkflowEngine.Journal.Setup
import WorkflowEngine.Json.Writer
import WorkflowEngine.Json.Published
import WorkflowEngine.Json.Reader
import WorkflowEngine.Layout.Field
import WorkflowEngine.Layout.Percent
import WorkflowEngine.Layout.Spec
import WorkflowEngine.Main
import WorkflowEngine.Number.Arithmetic
import WorkflowEngine.Number.Basic
import WorkflowEngine.Pattern.Matcher
import WorkflowEngine.Pattern.Reader
import WorkflowEngine.Pattern.Tree
import WorkflowEngine.Problem.Basic
import WorkflowEngine.Problem.Named
import WorkflowEngine.Proofs.Action.Registry
import WorkflowEngine.Proofs.Cycle.Workflow
import WorkflowEngine.Proofs.Cycle.Colour
import WorkflowEngine.Proofs.Cycle.Search
import WorkflowEngine.Proofs.Decimal.Bound
import WorkflowEngine.Proofs.Definition.Fault
import WorkflowEngine.Proofs.Definition.Shape
import WorkflowEngine.Proofs.Definition.Telling
import WorkflowEngine.Proofs.Expression.Layout
import WorkflowEngine.Proofs.Expression.Lines
import WorkflowEngine.Proofs.Expression.Statement
import WorkflowEngine.Proofs.Frame.Call
import WorkflowEngine.Proofs.Frame.Evaluation
import WorkflowEngine.Proofs.Frame.Expression
import WorkflowEngine.Proofs.Frame.Key
import WorkflowEngine.Proofs.Frame.Machine
import WorkflowEngine.Proofs.Frame.Method
import WorkflowEngine.Proofs.Frame.Value
import WorkflowEngine.Proofs.Http.Headers
import WorkflowEngine.Proofs.Json.Sendable
import WorkflowEngine.Proofs.Pattern.Case
import WorkflowEngine.Proofs.Reading.Reason
import WorkflowEngine.Proofs.Reading.Telling
import WorkflowEngine.Proofs.Region.Basic
import WorkflowEngine.Proofs.Region.Call
import WorkflowEngine.Proofs.Region.Copy
import WorkflowEngine.Proofs.Region.Expression
import WorkflowEngine.Proofs.Region.Handler
import WorkflowEngine.Proofs.Region.Load
import WorkflowEngine.Proofs.Region.Machine
import WorkflowEngine.Proofs.Region.Method
import WorkflowEngine.Proofs.Region.Mirror
import WorkflowEngine.Proofs.Region.Task
import WorkflowEngine.Proofs.Region.Value
import WorkflowEngine.Proofs.Region.Waiting
import WorkflowEngine.Proofs.Run.Calm
import WorkflowEngine.Proofs.Run.Course
import WorkflowEngine.Proofs.Run.Failure
import WorkflowEngine.Proofs.Run.Keys
import WorkflowEngine.Proofs.Run.Names
import WorkflowEngine.Proofs.Run.Opening
import WorkflowEngine.Proofs.Run.Origin
import WorkflowEngine.Proofs.Run.Parameters
import WorkflowEngine.Proofs.Run.Pending
import WorkflowEngine.Proofs.Run.Quiet
import WorkflowEngine.Proofs.Run.Settled
import WorkflowEngine.Proofs.Run.Task
import WorkflowEngine.Proofs.Service.Definition
import WorkflowEngine.Proofs.Store.History
import WorkflowEngine.Proofs.Store.Expiry
import WorkflowEngine.Proofs.Store.Lookup
import WorkflowEngine.Proofs.Store.Prompt
import WorkflowEngine.Proofs.Text.Whole
import WorkflowEngine.Proofs.Validation.Findings
import WorkflowEngine.Proofs.Validation.Sound
import WorkflowEngine.Proofs.Walk.Termination
import WorkflowEngine.Proofs.Walk.DepthFirst
import WorkflowEngine.Proofs.Walk.Invariant
import WorkflowEngine.Proofs.Walk.Route
import WorkflowEngine.Reading.Basic
import WorkflowEngine.Reading.Container
import WorkflowEngine.Reading.Scalar
import WorkflowEngine.Service.Basic
import WorkflowEngine.Service.Reply
import WorkflowEngine.Service.Request
import WorkflowEngine.Store.Basic
import WorkflowEngine.Text.Encoding
import WorkflowEngine.Text.Case
import WorkflowEngine.Text.Quoted
import WorkflowEngine.Text.Surrogate
import WorkflowEngine.Text.Trim
import WorkflowEngine.Text.Unicode.Alphanumeric
import WorkflowEngine.Text.Unicode.Ranges
import WorkflowEngine.Text.Unicode.Case
import WorkflowEngine.Text.Unicode.Identifier
import WorkflowEngine.Text.Unicode.Printable
import WorkflowEngine.Time.Clock
import WorkflowEngine.Trace.Basic
import WorkflowEngine.Validation.Checker
import WorkflowEngine.Validation.Cycle
import WorkflowEngine.Validation.Report
import WorkflowEngine.Value.Attribute
import WorkflowEngine.Value.Basic
import WorkflowEngine.Value.Container
import WorkflowEngine.Value.Machine
import WorkflowEngine.Value.Operator
import WorkflowEngine.Value.Selection
import WorkflowEngine.Value.View
import WorkflowEngine.Proofs.Run.Policy
import WorkflowEngine.Proofs.Region.Snapshot
import WorkflowEngine.Proofs.Run.Blame
import WorkflowEngine.Proofs.Run.Census
import WorkflowEngine.Proofs.Run.Log
import WorkflowEngine.Proofs.Run.Output
import WorkflowEngine.Proofs.Run.Keeping
import WorkflowEngine.Proofs.Relocation.Basic
import WorkflowEngine.Proofs.Relocation.Data
import WorkflowEngine.Proofs.Relocation.Machine
import WorkflowEngine.Proofs.Relocation.Value
import WorkflowEngine.Proofs.Relocation.Call
import WorkflowEngine.Proofs.Relocation.Method
import WorkflowEngine.Proofs.Relocation.Expression
import WorkflowEngine.Proofs.Relocation.Copy
import WorkflowEngine.Proofs.Relocation.Handler
import WorkflowEngine.Proofs.Relocation.Task
import WorkflowEngine.Proofs.Relocation.Visit
import WorkflowEngine.Proofs.Relocation.Fields
import WorkflowEngine.Proofs.Walk.Journey
import WorkflowEngine.Proofs.Run.Installed
import WorkflowEngine.Proofs.Run.Retention
import WorkflowEngine.Proofs.Run.Isolation
import WorkflowEngine.Proofs.Json.Tellable
import WorkflowEngine.Proofs.Service.Reached
import WorkflowEngine.Proofs.Service.Execution
import WorkflowEngine.Proofs.Definition.Proper
import WorkflowEngine.Proofs.Definition.References
import WorkflowEngine.Proofs.Definition.RoundTrip
import WorkflowEngine.Proofs.Expression.Lookup
import WorkflowEngine.Proofs.Relocation.Walk
import WorkflowEngine.Proofs.Run.Reach
import WorkflowEngine.Proofs.Condition.Resolution
import WorkflowEngine.Proofs.Condition.Containment
import WorkflowEngine.Proofs.Condition.Equality
import WorkflowEngine.Proofs.Condition.Order
import WorkflowEngine.Proofs.Condition.Case
import WorkflowEngine.Proofs.Service.Health
import WorkflowEngine.Proofs.Data.Sorting
import WorkflowEngine.Proofs.Decimal.Nearest
import WorkflowEngine.Proofs.Number.Arithmetic
import WorkflowEngine.Proofs.Action.Desk
import WorkflowEngine.Proofs.Action.Fields
import WorkflowEngine.Proofs.Action.Arithmetic
