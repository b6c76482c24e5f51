import LineLint.Analysis
import LineLint.BraceSpan
import LineLint.Bug
import LineLint.Bug.Record
import LineLint.Check.Dynamic
import LineLint.Check.Go
import LineLint.Check.Managed
import LineLint.Check.Markup
import LineLint.Check.Native
import LineLint.Check.Quality
import LineLint.Check.Script
import LineLint.Check.Security
import LineLint.Command
import LineLint.Fault
import LineLint.FileTree
import LineLint.Finding
import LineLint.History
import LineLint.History.Record
import LineLint.Json.Encoding
import LineLint.Json.Read
import LineLint.Json.Render
import LineLint.Json.Value
import LineLint.Language
import LineLint.Main
import LineLint.Number.Binary64
import LineLint.Number.Shortest
import LineLint.Pattern.Basic
import LineLint.Pattern.CharSet
import LineLint.Pattern.Ends
import LineLint.Pattern.Search
import LineLint.Proofs.Analysis
import LineLint.Proofs.BraceSpan.Extent
import LineLint.Proofs.Bug.Numbering
import LineLint.Proofs.Check.Allocation
import LineLint.Proofs.Check.Appended
import LineLint.Proofs.Check.ByLine
import LineLint.Proofs.Check.ConsoleLogging
import LineLint.Proofs.Check.DefinitionEnd
import LineLint.Proofs.Check.DefinitionLength
import LineLint.Proofs.Check.DoubleFree
import LineLint.Proofs.Check.Filing
import LineLint.Proofs.Check.FunctionLength
import LineLint.Proofs.Check.Injection
import LineLint.Proofs.Check.LineEnd
import LineLint.Proofs.Check.MethodBody
import LineLint.Proofs.Check.MethodHead
import LineLint.Proofs.Check.MethodName
import LineLint.Proofs.Check.NextLine
import LineLint.Proofs.Check.NullPointer
import LineLint.Proofs.Check.PrintStatement
import LineLint.Proofs.Check.ScanFormat
import LineLint.Proofs.Check.Stateless
import LineLint.Proofs.Check.Table
import LineLint.Proofs.Check.TagCase
import LineLint.Proofs.Command.Agreement
import LineLint.Proofs.Command.Answered
import LineLint.Proofs.Command.FileText
import LineLint.Proofs.Command.Files
import LineLint.Proofs.Command.OneFile
import LineLint.Proofs.Command.Printed
import LineLint.Proofs.Command.Run
import LineLint.Proofs.FileName
import LineLint.Proofs.History.Contents
import LineLint.Proofs.History.Log
import LineLint.Proofs.Json.Escape
import LineLint.Proofs.Json.Numeral
import LineLint.Proofs.Json.OneLine
import LineLint.Proofs.Json.RoundTrip
import LineLint.Proofs.Pattern.LetterCase
import LineLint.Proofs.Pattern.Match
import LineLint.Proofs.Pattern.Reads
import LineLint.Proofs.Pattern.Refinement
import LineLint.Proofs.Report.Aggregation
import LineLint.Proofs.Report.ByMessage
import LineLint.Proofs.Report.Credentials
import LineLint.Proofs.Report.Dialect
import LineLint.Proofs.Report.Doubled
import LineLint.Proofs.Report.LineEnding
import LineLint.Proofs.Report.LineOrder
import LineLint.Proofs.Report.Local
import LineLint.Proofs.Report.Location
import LineLint.Proofs.Report.Order
import LineLint.Proofs.Report.Record
import LineLint.Proofs.Scan.Append
import LineLint.Proofs.Scan.Latest
import LineLint.Proofs.Scan.Local
import LineLint.Proofs.Scan.Numbered
import LineLint.Proofs.Service.Effect
import LineLint.Proofs.Service.Integrity
import LineLint.Proofs.Service.Run
import LineLint.Proofs.Service.Target
import LineLint.Proofs.Text.Blank
import LineLint.Proofs.Text.Case
import LineLint.Proofs.Text.CodePoint
import LineLint.Proofs.Text.LineBreaks
import LineLint.Proofs.Text.LineStart
import LineLint.Proofs.Text.Seam
import LineLint.Proofs.Text.Token
import LineLint.Proofs.Text.Utf8
import LineLint.Proofs.Unfailing
import LineLint.Report
import LineLint.Report.Record
import LineLint.Rule
import LineLint.Scan
import LineLint.Service
import LineLint.Service.Route
import LineLint.Service.Submission
import LineLint.Settings
import LineLint.Text.Blank
import LineLint.Text.Case
import LineLint.Text.Cased
import LineLint.Text.CodePoint
import LineLint.Text.CodeRange
import LineLint.Text.Digit
import LineLint.Text.Lines
import LineLint.Text.Offset
import LineLint.Text.Printable
import LineLint.Text.Quoted
import LineLint.Text.Split
import LineLint.Text.Utf8
import LineLint.Text.Word
