import RandomC.Code.CType
import RandomC.Code.Expr
import RandomC.Code.Function
import RandomC.Code.Item
import RandomC.Code.Literal
import RandomC.Code.Statement
import RandomC.Code.Variable
import RandomC.CommandLine.Application
import RandomC.CommandLine.Console
import RandomC.CommandLine.Help
import RandomC.CommandLine.Option
import RandomC.CommandLine.Parser
import RandomC.Composite.Generator
import RandomC.Composite.Layouts
import RandomC.Environment.Basic
import RandomC.Environment.Builder
import RandomC.Files.Path
import RandomC.Files.System
import RandomC.Files.Tree
import RandomC.Generation.CallGraph
import RandomC.Generation.Definition
import RandomC.Generation.Event
import RandomC.Generation.Expression
import RandomC.Generation.Place
import RandomC.Generation.Prepared
import RandomC.Generation.Program
import RandomC.Generation.State
import RandomC.Generation.Statement
import RandomC.Generation.Step
import RandomC.Generation.Term
import RandomC.Ini.Document
import RandomC.Ini.Error
import RandomC.Ini.Reader
import RandomC.Ini.Reference
import RandomC.Ini.Switch
import RandomC.Main
import RandomC.Proofs.Attempt
import RandomC.Proofs.Changes
import RandomC.Proofs.Contract
import RandomC.Proofs.Draws
import RandomC.Proofs.Formed
import RandomC.Proofs.State
import RandomC.Proofs.Step
import RandomC.Random.Query
import RandomC.Random.Source
import RandomC.Random.Stream
import RandomC.Random.Trace
import RandomC.Settings.Basic
import RandomC.Settings.Descriptor
import RandomC.Settings.Prepare
import RandomC.Settings.Problem
import RandomC.Settings.Store
import RandomC.Settings.Table
import RandomC.Text.Blank
import RandomC.Text.Cased
import RandomC.Text.Dedent
import RandomC.Text.Digit
import RandomC.Text.Hex
import RandomC.Text.Integer
import RandomC.Text.Lower
import RandomC.Text.Quoted
import RandomC.Text.Replace
import RandomC.Text.Sheet
import RandomC.Text.Shown
import RandomC.Text.Template
import RandomC.Text.Utf8
import RandomC.Text.Wrap
import RandomC.Proofs.Expression
import RandomC.Proofs.Statement
import RandomC.Proofs.Definition
import RandomC.Proofs.Layouts
import RandomC.Proofs.Results
import RandomC.Proofs.Rollback
import RandomC.Proofs.Calls
import RandomC.Proofs.Names
import RandomC.Proofs.Written
import RandomC.Proofs.Scope
import RandomC.Proofs.Body
import RandomC.Proofs.Ledger
import RandomC.Proofs.Composites
import RandomC.Proofs.Variables
import RandomC.Proofs.Program
import RandomC.Proofs.Numbering
import RandomC.Proofs.Policy
import RandomC.Proofs.Regime
import RandomC.Proofs.ExpressionShape
import RandomC.Proofs.BodyShape
import RandomC.Proofs.Calm
import RandomC.Proofs.Listing
import RandomC.Proofs.Contents
import RandomC.Proofs.Brackets
import RandomC.Proofs.ExpressionText
import RandomC.Proofs.BodyText
import RandomC.Proofs.CastTypes
import RandomC.Proofs.Bounds
import RandomC.Proofs.Hash
import RandomC.Proofs.Failure
import RandomC.Proofs.Agreement
import RandomC.Proofs.Recursion
import RandomC.Proofs.Ending
import RandomC.Proofs.Budget
import RandomC.Proofs.Terms
import RandomC.Proofs.Casts
import RandomC.Proofs.Building
import RandomC.Proofs.Targets
import RandomC.Proofs.Pointers
import RandomC.Proofs.Blind
import RandomC.Proofs.BlindSetup
import RandomC.Proofs.BlindExpression
import RandomC.Proofs.BlindBody
import RandomC.Proofs.Readings
import RandomC.Proofs.Tracing
import RandomC.Proofs.Alone
import RandomC.Proofs.Replay
import RandomC.Proofs.Ladders
import RandomC.Proofs.Features
import RandomC.Proofs.Above
import RandomC.Proofs.Association
import RandomC.Proofs.Seeds
import RandomC.Proofs.Storing
import RandomC.Proofs.Trees
import RandomC.Proofs.Writing
import RandomC.Proofs.Parts
import RandomC.Proofs.Recorded
import RandomC.Proofs.Verbosity
import RandomC.Proofs.Numerals
import RandomC.Proofs.Plain
import RandomC.Proofs.RoundTrip
import RandomC.Proofs.Documents
import RandomC.Proofs.Overriding
import RandomC.Proofs.Layering
import RandomC.Proofs.CompositeText
import RandomC.Proofs.Ranges
import RandomC.Proofs.LastResort
import RandomC.Proofs.Toward
import RandomC.Proofs.Sparing
import RandomC.Proofs.SparingBody
import RandomC.Proofs.Descriptors
import RandomC.Proofs.Preparing
import RandomC.Proofs.Redraws
import RandomC.Proofs.Queries
import RandomC.Proofs.Selection
import RandomC.Proofs.Weights
import RandomC.Proofs.Constants
import RandomC.Proofs.Neutral
import RandomC.Proofs.Watching
import RandomC.Proofs.Values
import RandomC.Proofs.Period
