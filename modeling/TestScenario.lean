import TestScenario.Calendar.Date
import TestScenario.Calendar.Instant
import TestScenario.Calendar.Span
import TestScenario.Catalog.Basic
import TestScenario.Catalog.Files
import TestScenario.Catalog.Loading
import TestScenario.Catalog.Parts
import TestScenario.CommandLine.Options
import TestScenario.CommandLine.Summary
import TestScenario.Decimal.Binary
import TestScenario.Decimal.Bounds
import TestScenario.Decimal.Layout
import TestScenario.Decimal.Reading
import TestScenario.Document.Mark
import TestScenario.Document.Node
import TestScenario.Document.ScalarText
import TestScenario.Document.Source
import TestScenario.Document.Style
import TestScenario.Document.Token
import TestScenario.Document.Tree
import TestScenario.Document.Writer
import TestScenario.Engine.CaseStep
import TestScenario.Engine.Config
import TestScenario.Engine.Dispatch
import TestScenario.Engine.Error
import TestScenario.Engine.Event
import TestScenario.Engine.Host
import TestScenario.Engine.Rehearsal
import TestScenario.Engine.Stage
import TestScenario.Engine.Steps
import TestScenario.History.Basic
import TestScenario.History.Fanout
import TestScenario.History.Memory
import TestScenario.History.Remote
import TestScenario.History.Reports
import TestScenario.History.Sink
import TestScenario.Http.Client
import TestScenario.Http.Draft
import TestScenario.Http.Execution
import TestScenario.Http.Interview
import TestScenario.Http.Judgement
import TestScenario.Http.Message
import TestScenario.Http.Offline
import TestScenario.Http.Status
import TestScenario.Http.Wire
import TestScenario.Json.Path
import TestScenario.Json.Reader
import TestScenario.Json.Value
import TestScenario.Json.Writer
import TestScenario.Main
import TestScenario.Outcome.Fault
import TestScenario.Outcome.Record
import TestScenario.Outcome.Result
import TestScenario.Pattern.Bulk
import TestScenario.Pattern.ByteTree
import TestScenario.Pattern.Class
import TestScenario.Pattern.Program
import TestScenario.Pattern.Reader
import TestScenario.Pattern.Search
import TestScenario.Pattern.Tree
import TestScenario.Run.Checks
import TestScenario.Run.Clock
import TestScenario.Run.Context
import TestScenario.Run.Extraction
import TestScenario.Run.Reference
import TestScenario.Run.Scopes
import TestScenario.Run.StepIndex
import TestScenario.Scenario.Case
import TestScenario.Scenario.Definition
import TestScenario.Scenario.Effective
import TestScenario.Scenario.Forest
import TestScenario.Scenario.Kind
import TestScenario.Scenario.Overrides
import TestScenario.Scenario.Row
import TestScenario.Scenario.Settings
import TestScenario.Scenario.Step
import TestScenario.Script.Arithmetic
import TestScenario.Script.Eval
import TestScenario.Script.Expr
import TestScenario.Script.Failure
import TestScenario.Script.Function
import TestScenario.Script.Grammar
import TestScenario.Script.Literal
import TestScenario.Script.Run
import TestScenario.Script.Statement
import TestScenario.Script.Token
import TestScenario.Script.Value
import TestScenario.Text.Base64
import TestScenario.Text.Blank
import TestScenario.Text.Dict
import TestScenario.Text.Hidden
import TestScenario.Text.Table
import TestScenario.Text.Utf8
import TestScenario.Unicode.Age
import TestScenario.Unicode.Border
import TestScenario.Unicode.Category
import TestScenario.Unicode.Compact
import TestScenario.Unicode.Composition
import TestScenario.Unicode.Direction
import TestScenario.Unicode.DomainMapping
import TestScenario.Unicode.Folding
import TestScenario.Unicode.Joining
import TestScenario.Unicode.Property
import TestScenario.Unicode.Query
import TestScenario.Unicode.ScalarSet
import TestScenario.Unicode.Script
import TestScenario.Url.Basic
import TestScenario.Url.Domain
import TestScenario.Url.HostText
import TestScenario.Url.Punycode
import TestScenario.Url.Reader
import TestScenario.Proofs.Scopes
import TestScenario.Proofs.Action
import TestScenario.Proofs.Frame
import TestScenario.Proofs.Nesting
import TestScenario.Proofs.Trace
import TestScenario.Proofs.Deeds
import TestScenario.Proofs.Notes
import TestScenario.Proofs.Cancellation
import TestScenario.Proofs.Forest
import TestScenario.Proofs.Logs
import TestScenario.Proofs.Naming
import TestScenario.Proofs.References
import TestScenario.Proofs.Routing
import TestScenario.Proofs.Observation
import TestScenario.Proofs.Erasure
import TestScenario.Proofs.LoopVariables
import TestScenario.Proofs.Filing
import TestScenario.Proofs.Crowd
import TestScenario.Proofs.Rows
import TestScenario.Proofs.Visits
import TestScenario.Proofs.Merging
import TestScenario.Proofs.Reporting
import TestScenario.Proofs.Statements
import TestScenario.Proofs.Paths
import TestScenario.Proofs.Rounds
import TestScenario.Proofs.Coincidence
import TestScenario.Proofs.Verdicts
import TestScenario.Proofs.Tables
import TestScenario.Proofs.Assignments
import TestScenario.Proofs.CaseVariables
import TestScenario.Proofs.Absence
import TestScenario.Proofs.Literals
import TestScenario.Proofs.Aliases
import TestScenario.Proofs.Order
import TestScenario.Proofs.Boundaries
import TestScenario.Proofs.Phrases
import TestScenario.Proofs.Assertions
import TestScenario.Proofs.BracketPaths
import TestScenario.Proofs.Descent
import TestScenario.Proofs.Substitution
import TestScenario.Proofs.BodyReferences
import TestScenario.Proofs.Findings
import TestScenario.Proofs.Passing
import TestScenario.Proofs.Visibility
import TestScenario.Proofs.Handover
import TestScenario.Proofs.Restoration
import TestScenario.Proofs.Legibility
import TestScenario.Proofs.Headers
import TestScenario.Proofs.Addresses
import TestScenario.Proofs.Registration
import TestScenario.Proofs.Inheritance
import TestScenario.Proofs.Rebuilding
import TestScenario.Proofs.MergeOrder
import TestScenario.Proofs.Retries
import TestScenario.Proofs.WrittenForms
import TestScenario.Proofs.Rereading
