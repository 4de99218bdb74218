import LayoutLint.Check.Constructor
import LayoutLint.Check.Inspection
import LayoutLint.Check.Keyword
import LayoutLint.Check.Measure
import LayoutLint.Check.Run
import LayoutLint.Decimal
import LayoutLint.Expression.Escape
import LayoutLint.Expression.Format
import LayoutLint.Expression.Grammar.Argument
import LayoutLint.Expression.Grammar.Atom
import LayoutLint.Expression.Grammar.Listing
import LayoutLint.Expression.Grammar.Loop
import LayoutLint.Expression.Grammar.Parameter
import LayoutLint.Expression.Grammar.Rules
import LayoutLint.Expression.Numeral
import LayoutLint.Expression.Read
import LayoutLint.Expression.Scanner
import LayoutLint.Expression.Search
import LayoutLint.Expression.Slip
import LayoutLint.Expression.Token
import LayoutLint.Expression.Tree
import LayoutLint.Expression.Value
import LayoutLint.Fault
import LayoutLint.Findings
import LayoutLint.Fix.Apply
import LayoutLint.Fix.Basic
import LayoutLint.Fix.Batch
import LayoutLint.Json.Basic
import LayoutLint.Json.Literal
import LayoutLint.Json.Printer
import LayoutLint.Json.Reader
import LayoutLint.Options
import LayoutLint.Phrase
import LayoutLint.Position
import LayoutLint.Proofs.Batch
import LayoutLint.Proofs.CommaBreaks
import LayoutLint.Proofs.Conflicts
import LayoutLint.Proofs.ConstructorFix
import LayoutLint.Proofs.LineEdits
import LayoutLint.Proofs.Lines
import LayoutLint.Proofs.Measure
import LayoutLint.Proofs.Nesting
import LayoutLint.Proofs.Rebase
import LayoutLint.Proofs.Relocate
import LayoutLint.Proofs.Reports.Constructor
import LayoutLint.Proofs.Reports.Keyword
import LayoutLint.Proofs.Reports.Run
import LayoutLint.Proofs.SecondPass
import LayoutLint.Report.Console.Colour
import LayoutLint.Report.Console.Columns
import LayoutLint.Report.Console.Highlight
import LayoutLint.Report.Console.Line
import LayoutLint.Report.Console.Markup
import LayoutLint.Report.Console.Markup.Parameter
import LayoutLint.Report.Console.Markup.Piece
import LayoutLint.Report.Console.Render
import LayoutLint.Report.Console.Strip
import LayoutLint.Report.Console.Style
import LayoutLint.Report.Console.StyleName
import LayoutLint.Report.Console.Symbol
import LayoutLint.Report.Console.Symbol.Names
import LayoutLint.Report.Console.Table
import LayoutLint.Report.Console.Theme
import LayoutLint.Report.Console.Wrap
import LayoutLint.Report.Format
import LayoutLint.Report.Plain
import LayoutLint.Report.Structured
import LayoutLint.Rounding
import LayoutLint.Rule
import LayoutLint.Session
import LayoutLint.Source
import LayoutLint.Text.Basic
import LayoutLint.Text.Blank
import LayoutLint.Text.Cased
import LayoutLint.Text.Cells
import LayoutLint.Text.CharacterName
import LayoutLint.Text.CharacterName.Table
import LayoutLint.Text.Grapheme
import LayoutLint.Text.LineBreak
import LayoutLint.Text.LowerCase
import LayoutLint.Text.Name
import LayoutLint.Text.Pattern
import LayoutLint.Text.Printable
import LayoutLint.Text.Quoted
import LayoutLint.Text.Ranges
import LayoutLint.Text.Word
import LayoutLint.Text.Wrap
import LayoutLint.Tree.Kind
import LayoutLint.Tree.Node
import LayoutLint.Tree.Span
import LayoutLint.Tree.Walk
import LayoutLint.Violation
import LayoutLint.Proofs.RunOrder
import LayoutLint.Proofs.TwoRuns
import LayoutLint.Proofs.OptionIndependence
import LayoutLint.Proofs.LineStarts
import LayoutLint.Proofs.Embedding
import LayoutLint.Proofs.Failures
import LayoutLint.Proofs.Refusals
import LayoutLint.Proofs.Weave
import LayoutLint.Proofs.ReportPlaces
import LayoutLint.Proofs.Digits
import LayoutLint.Proofs.Json.Strings
import LayoutLint.Proofs.Json.Scalars
import LayoutLint.Proofs.Json.RoundTrip
import LayoutLint.Proofs.StructuredReport
import LayoutLint.Proofs.Crowding
import LayoutLint.Proofs.Trivia
import LayoutLint.Proofs.KeywordPlace
import LayoutLint.Proofs.ParameterTexts
import LayoutLint.Proofs.ListPieces
import LayoutLint.Proofs.KeywordVerdicts
import LayoutLint.Proofs.Positions
import LayoutLint.Proofs.Relisting
import LayoutLint.Proofs.InTurn
import LayoutLint.Proofs.Undoing
import LayoutLint.Proofs.WalkOrder
import LayoutLint.Proofs.Arguments
import LayoutLint.Proofs.PlainReport
import LayoutLint.Proofs.StreamedReports
import LayoutLint.Proofs.Console.Labels
import LayoutLint.Proofs.Console.Faults
import LayoutLint.Proofs.Console.Tags
import LayoutLint.Proofs.Console.Readings
import LayoutLint.Proofs.Console.ReportFaults
import LayoutLint.Proofs.Console.Codes
import LayoutLint.Proofs.Console.Rows
import LayoutLint.Proofs.Console.Locations
import LayoutLint.Proofs.Quoted
import LayoutLint.Proofs.FixTexts
import LayoutLint.Proofs.Console.Folding
import LayoutLint.Proofs.Console.Previews
import LayoutLint.Proofs.Writing
import LayoutLint.Proofs.Levels
