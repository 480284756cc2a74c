import Listeners.Analysis
import Listeners.Analysis.Json
import Listeners.Binding
import Listeners.Binding.Json
import Listeners.Collector
import Listeners.Diagnostic
import Listeners.Diagnostic.Json
import Listeners.Directory.Sources
import Listeners.Directory.Tree
import Listeners.Directory.Walk
import Listeners.Flags
import Listeners.Json.Basic
import Listeners.Json.Decode
import Listeners.Json.Fault
import Listeners.Json.Number
import Listeners.Json.Text
import Listeners.Json.Text.Render
import Listeners.Json.Text.Skip
import Listeners.Json.Text.Value
import Listeners.Number.Double
import Listeners.Number.Shortest
import Listeners.Path
import Listeners.Proofs.Bindings
import Listeners.Proofs.ByteOrder
import Listeners.Proofs.Bytes
import Listeners.Proofs.Consumption
import Listeners.Proofs.Declared
import Listeners.Proofs.Decoding
import Listeners.Proofs.Diagnostics
import Listeners.Proofs.Directory.Analyses
import Listeners.Proofs.Directory.Contents
import Listeners.Proofs.Directory.Following
import Listeners.Proofs.Directory.Links
import Listeners.Proofs.Directory.Path
import Listeners.Proofs.Directory.Sources
import Listeners.Proofs.Directory.Ways
import Listeners.Proofs.Evaluation
import Listeners.Proofs.FatalScope
import Listeners.Proofs.Finite
import Listeners.Proofs.FixedPoint
import Listeners.Proofs.Grammar
import Listeners.Proofs.Growth
import Listeners.Proofs.History
import Listeners.Proofs.Incomplete
import Listeners.Proofs.Independence
import Listeners.Proofs.Json.Kinds
import Listeners.Proofs.Json.Passing
import Listeners.Proofs.Json.Strings
import Listeners.Proofs.Json.Syntax
import Listeners.Proofs.LetterCase
import Listeners.Proofs.Lines
import Listeners.Proofs.Listing
import Listeners.Proofs.Lowercase
import Listeners.Proofs.MethodNames
import Listeners.Proofs.Objects
import Listeners.Proofs.Occurrences
import Listeners.Proofs.Options
import Listeners.Proofs.Order
import Listeners.Proofs.Pass
import Listeners.Proofs.Rearrangement
import Listeners.Proofs.Rejection
import Listeners.Proofs.Rendering
import Listeners.Proofs.RoundTrip
import Listeners.Proofs.Script.Annotations
import Listeners.Proofs.Script.Literals
import Listeners.Proofs.Script.Pieces
import Listeners.Proofs.Selection
import Listeners.Proofs.Separator
import Listeners.Proofs.Settings
import Listeners.Proofs.Specifier
import Listeners.Proofs.Spelling
import Listeners.Proofs.Stability
import Listeners.Proofs.StableSort
import Listeners.Proofs.Text
import Listeners.Proofs.Verdict
import Listeners.Proofs.Vocabulary
import Listeners.Request
import Listeners.Rule
import Listeners.Script.Classes
import Listeners.Script.Dialect
import Listeners.Script.Grammar
import Listeners.Script.Grammar.Class
import Listeners.Script.Grammar.Expression
import Listeners.Script.Grammar.Function
import Listeners.Script.Grammar.Markup
import Listeners.Script.Grammar.Reading
import Listeners.Script.Grammar.Statement
import Listeners.Script.Grammar.Type
import Listeners.Script.Identifier
import Listeners.Script.Identifier.Table
import Listeners.Script.Node
import Listeners.Script.Parser
import Listeners.Script.Token
import Listeners.Script.Token.Literal
import Listeners.Script.Token.Scan
import Listeners.Script.View
import Listeners.Settings
import Listeners.Settings.Text
import Listeners.Source
import Listeners.Source.Json
import Listeners.Specifier
import Listeners.Text.Blank
import Listeners.Text.Bytes
import Listeners.Text.LineIndex
import Listeners.Text.Location
import Listeners.Text.Lowercase
import Listeners.Text.Lowercase.Table
import Listeners.Text.Order
import Listeners.Text.Quoted
import Listeners.Text.Quoted.Table
import Listeners.Verdict
import Listeners.Verdict.Json
import Listeners.View
import Listeners.View.Evaluation
import Listeners.View.Json
