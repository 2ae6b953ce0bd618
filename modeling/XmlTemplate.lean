import XmlTemplate.Command.Arguments
import XmlTemplate.Command.Definition
import XmlTemplate.Command.Run
import XmlTemplate.Command.Usage
import XmlTemplate.Decimal.Binary64
import XmlTemplate.Decimal.Integer
import XmlTemplate.Decimal.Reading
import XmlTemplate.Decimal.Shortest
import XmlTemplate.Environment
import XmlTemplate.Expansion.Attributes
import XmlTemplate.Expansion.Directive
import XmlTemplate.Expansion.Error
import XmlTemplate.Expansion.Expand
import XmlTemplate.Expansion.Expander
import XmlTemplate.Expansion.Loop
import XmlTemplate.Expansion.Options
import XmlTemplate.Expansion.Run
import XmlTemplate.Expr.Builtin
import XmlTemplate.Expr.Error
import XmlTemplate.Expr.Eval
import XmlTemplate.Expr.Grammar
import XmlTemplate.Expr.Number
import XmlTemplate.Expr.Syntax
import XmlTemplate.Expr.Value
import XmlTemplate.FileTree
import XmlTemplate.Interpolation
import XmlTemplate.Main
import XmlTemplate.Markup.Error
import XmlTemplate.Markup.Escape
import XmlTemplate.Markup.Event
import XmlTemplate.Markup.Lexer
import XmlTemplate.Markup.Name
import XmlTemplate.Markup.Node
import XmlTemplate.Markup.Printer
import XmlTemplate.Markup.Reader
import XmlTemplate.Markup.Scope
import XmlTemplate.Markup.TagText
import XmlTemplate.Markup.Token
import XmlTemplate.Symbol
import XmlTemplate.Text.Blank
import XmlTemplate.Text.Casing
import XmlTemplate.Text.CasingTable
import XmlTemplate.Text.Composition
import XmlTemplate.Text.CompositionTable
import XmlTemplate.Text.Direction
import XmlTemplate.Text.DirectionTable
import XmlTemplate.Text.Joining
import XmlTemplate.Text.JoiningTable
import XmlTemplate.Text.MarkTable
import XmlTemplate.Text.Ranges
import XmlTemplate.Text.Search
import XmlTemplate.Uri.Basic
import XmlTemplate.Uri.DomainName
import XmlTemplate.Uri.DomainName.Table
import XmlTemplate.Uri.Error
import XmlTemplate.Uri.FilePath
import XmlTemplate.Uri.Host
import XmlTemplate.Uri.Percent
import XmlTemplate.Uri.Punycode
import XmlTemplate.Uri.Reference
import XmlTemplate.Proofs.Expr.NodeValues
import XmlTemplate.Proofs.Expansion.Triple
import XmlTemplate.Proofs.Expansion.Results
import XmlTemplate.Proofs.Expansion.Frames
import XmlTemplate.Proofs.Expansion.DirectiveFree
import XmlTemplate.Proofs.Expansion.WellFormed
import XmlTemplate.Proofs.Environment
import XmlTemplate.Proofs.Expansion.Coupling
import XmlTemplate.Proofs.Expansion.Lockstep
import XmlTemplate.Proofs.Expansion.Operations
import XmlTemplate.Proofs.Expansion.Session
import XmlTemplate.Proofs.Markup.Names
import XmlTemplate.Proofs.Markup.Escape
import XmlTemplate.Proofs.Markup.Scan
import XmlTemplate.Proofs.Markup.TagText
import XmlTemplate.Proofs.Markup.Reading
import XmlTemplate.Proofs.Markup.Namespaces
import XmlTemplate.Proofs.Markup.Tags
import XmlTemplate.Proofs.Markup.Written
import XmlTemplate.Proofs.Markup.Leaves
import XmlTemplate.Proofs.Markup.Writable
import XmlTemplate.Proofs.Markup.RoundTrip
import XmlTemplate.Proofs.Markup.Scanned
import XmlTemplate.Proofs.Markup.Sound
import XmlTemplate.Proofs.Markup.Outline
import XmlTemplate.Proofs.Markup.Acceptance
import XmlTemplate.Proofs.Markup.Decoded
import XmlTemplate.Proofs.Markup.Original
import XmlTemplate.Proofs.Markup.Reread
import XmlTemplate.Proofs.Markup.Rewriting
import XmlTemplate.Proofs.Expansion.Accord
import XmlTemplate.Proofs.Expansion.Steps
import XmlTemplate.Proofs.Expansion.SideBySide
import XmlTemplate.Proofs.Expansion.Ignored
import XmlTemplate.Proofs.Markup.Declarations
import XmlTemplate.Proofs.Expansion.Unhandled
import XmlTemplate.Proofs.Expansion.Verbatim
import XmlTemplate.Proofs.Dialogue
import XmlTemplate.Proofs.Expansion.Recursion
import XmlTemplate.Proofs.Expansion.Conducts
import XmlTemplate.Proofs.Expansion.Repetition
import XmlTemplate.Proofs.Expansion.Termination
import XmlTemplate.Proofs.Expansion.Outcome
import XmlTemplate.Proofs.Expansion.Conditional
import XmlTemplate.Proofs.Expansion.Reachable
import XmlTemplate.Proofs.Expansion.Includes
import XmlTemplate.Proofs.Expansion.Nesting
import XmlTemplate.Proofs.Expr.Printer
import XmlTemplate.Proofs.Expr.Operands
import XmlTemplate.Proofs.Expr.Levels
import XmlTemplate.Proofs.Expr.Forms
import XmlTemplate.Proofs.Expr.RoundTrip
import XmlTemplate.Proofs.Expansion.Directives
import XmlTemplate.Proofs.Expansion.CounterLoop
import XmlTemplate.Proofs.Expansion.Invocation
import XmlTemplate.Proofs.Expansion.Synthesis
import XmlTemplate.Proofs.Expansion.Unrolling
import XmlTemplate.Proofs.Text
import XmlTemplate.Proofs.Interpolation
import XmlTemplate.Proofs.Interpolation.Segments
import XmlTemplate.Proofs.Expr.Variables
import XmlTemplate.Proofs.SymbolNames
import XmlTemplate.Proofs.Expansion.Dependence
import XmlTemplate.Proofs.Expansion.Surroundings
import XmlTemplate.Proofs.Expansion.Splice
import XmlTemplate.Proofs.Expansion.ComputedAttribute
import XmlTemplate.Proofs.Expansion.Inquiry
import XmlTemplate.Proofs.Expansion.Origin
import XmlTemplate.Proofs.Expansion.MissingAttributes
import XmlTemplate.Proofs.Expansion.Tidy
import XmlTemplate.Proofs.Expr.Combinators
import XmlTemplate.Proofs.Expr.Brackets
import XmlTemplate.Proofs.Expr.Enclosed
import XmlTemplate.Proofs.Expr.MinusSign
import XmlTemplate.Proofs.Expr.Occurrences
import XmlTemplate.Proofs.Expr.Dependence
import XmlTemplate.Proofs.Decimal.Numeral
import XmlTemplate.Proofs.Expr.IntegerArithmetic
import XmlTemplate.Proofs.Decimal.Nearest
import XmlTemplate.Proofs.Decimal.Double
import XmlTemplate.Proofs.Expr.IntegerOrder
import XmlTemplate.Proofs.Text.Search
import XmlTemplate.Proofs.Expr.TextFunctions
import XmlTemplate.Proofs.Markup.CharacterReferences
import XmlTemplate.Proofs.Expansion.CounterValues
import XmlTemplate.Proofs.Markup.Indentation
import XmlTemplate.Proofs.Markup.Normal
import XmlTemplate.Proofs.Markup.OpenElements
