import GraphScript.CSharp.Identifier
import GraphScript.CSharp.Literal
import GraphScript.Code.Writer
import GraphScript.Command.Options
import GraphScript.Command.Run
import GraphScript.Command.Usage
import GraphScript.Config.Basic
import GraphScript.Config.Load
import GraphScript.Config.Read
import GraphScript.Document
import GraphScript.Fault
import GraphScript.Files.Basic
import GraphScript.Files.Path
import GraphScript.Json.Reader
import GraphScript.Json.Writer
import GraphScript.Kind
import GraphScript.Log.Note
import GraphScript.Log.Settings
import GraphScript.Log.Sink
import GraphScript.Lowering.Action
import GraphScript.Lowering.Condition
import GraphScript.Lowering.Context
import GraphScript.Lowering.Effect
import GraphScript.Lowering.Fallback
import GraphScript.Lowering.Field
import GraphScript.Lowering.Operand
import GraphScript.Lowering.Service
import GraphScript.Lowering.Session
import GraphScript.Lowering.Walk
import GraphScript.Main
import GraphScript.Model.Checked
import GraphScript.Model.Entity
import GraphScript.Model.Graph
import GraphScript.Model.Project
import GraphScript.Number.Binary64
import GraphScript.Number.Numeral
import GraphScript.Number.Shortest
import GraphScript.Params.Action
import GraphScript.Params.Condition
import GraphScript.Params.Form
import GraphScript.Payload.Parse
import GraphScript.Payload.Shape
import GraphScript.Proofs.Account
import GraphScript.Proofs.Animation
import GraphScript.Proofs.Assembly
import GraphScript.Proofs.Binary64
import GraphScript.Proofs.Bodies
import GraphScript.Proofs.Bounded
import GraphScript.Proofs.Budget
import GraphScript.Proofs.Build
import GraphScript.Proofs.ClassCode
import GraphScript.Proofs.Coercion
import GraphScript.Proofs.Compile
import GraphScript.Proofs.ConditionNode
import GraphScript.Proofs.Constant
import GraphScript.Proofs.Contained
import GraphScript.Proofs.Contribution
import GraphScript.Proofs.Conversion
import GraphScript.Proofs.Cooldown
import GraphScript.Proofs.Coroutine
import GraphScript.Proofs.Declaration
import GraphScript.Proofs.Delivery
import GraphScript.Proofs.Depth
import GraphScript.Proofs.Diagnostic
import GraphScript.Proofs.Distinct
import GraphScript.Proofs.DistinctKeys
import GraphScript.Proofs.Division
import GraphScript.Proofs.Documented
import GraphScript.Proofs.Encoding
import GraphScript.Proofs.Execution
import GraphScript.Proofs.Expression
import GraphScript.Proofs.Extent
import GraphScript.Proofs.FailOpen
import GraphScript.Proofs.Faultless
import GraphScript.Proofs.GraphIndex
import GraphScript.Proofs.Health
import GraphScript.Proofs.Identifier
import GraphScript.Proofs.Import
import GraphScript.Proofs.InitialLiteral
import GraphScript.Proofs.IntRange
import GraphScript.Proofs.KindName
import GraphScript.Proofs.Layering
import GraphScript.Proofs.Limit
import GraphScript.Proofs.Lines
import GraphScript.Proofs.Locals
import GraphScript.Proofs.Lowered
import GraphScript.Proofs.Meaning
import GraphScript.Proofs.Member
import GraphScript.Proofs.Nesting
import GraphScript.Proofs.NumberLiteral
import GraphScript.Proofs.Overlap
import GraphScript.Proofs.Passage
import GraphScript.Proofs.Path
import GraphScript.Proofs.Phrase
import GraphScript.Proofs.Placement
import GraphScript.Proofs.Plain
import GraphScript.Proofs.Plan
import GraphScript.Proofs.Range
import GraphScript.Proofs.Reading
import GraphScript.Proofs.RecordFile
import GraphScript.Proofs.Reference
import GraphScript.Proofs.Refusal
import GraphScript.Proofs.Report
import GraphScript.Proofs.RoundTrip
import GraphScript.Proofs.Rounding
import GraphScript.Proofs.Scan
import GraphScript.Proofs.Scope
import GraphScript.Proofs.Setting
import GraphScript.Proofs.Shapes
import GraphScript.Proofs.SharedLiteral
import GraphScript.Proofs.SourceLevel
import GraphScript.Proofs.Splice
import GraphScript.Proofs.Statement
import GraphScript.Proofs.Storage
import GraphScript.Proofs.StringLiteral
import GraphScript.Proofs.Succeeds
import GraphScript.Proofs.Tolerance
import GraphScript.Proofs.Total
import GraphScript.Proofs.Visit
import GraphScript.Proofs.Word
import GraphScript.Proofs.Written
import GraphScript.Script.Class
import GraphScript.Script.Event
import GraphScript.Script.Project
import GraphScript.Text.Blank
import GraphScript.Text.Case
import GraphScript.Text.Identifier
import GraphScript.Text.Letter
import GraphScript.Text.Utf8
import GraphScript.Text.Wrap
import GraphScript.Value.Basic
import GraphScript.Value.Display
import GraphScript.Value.Typed
import GraphScript.Yaml.Cursor
import GraphScript.Yaml.Node
import GraphScript.Yaml.Reader
import GraphScript.Yaml.Scalar
import GraphScript.Yaml.Tag
import GraphScript.Yaml.Token
