import JsonShell.Prompt
import JsonShell.Config
import JsonShell.History
import JsonShell.FailureLog
import JsonShell.Diagnostic
import JsonShell.Failure
import JsonShell.File.Tree
import JsonShell.File.Fault
import JsonShell.File.Path
import JsonShell.Render
import JsonShell.Render.Table
import JsonShell.Render.Listing
import JsonShell.Render.Paint
import JsonShell.Pipeline.Stage
import JsonShell.Pipeline.Head
import JsonShell.Record
import JsonShell.Loop.Basic
import JsonShell.Loop.Source
import JsonShell.Loop.Body
import JsonShell.Loop.Header
import JsonShell.Variable.Assignment
import JsonShell.Variable.Reference
import JsonShell.Variable.Store
import JsonShell.Line.Pipe
import JsonShell.Line.Token
import JsonShell.Json.Parser
import JsonShell.Dictionary
import JsonShell.Json.Printer
import JsonShell.Json.Value
import JsonShell.Json.Number
import JsonShell.Decimal.Literal
import JsonShell.Decimal.Layout
import JsonShell.Decimal.Shortest
import JsonShell.Decimal.Binary64
import JsonShell.Text.Blank
import JsonShell.Text.Split
import JsonShell.Text.Utf8
import JsonShell.Text.Numeral
import JsonShell.Text.Width
import JsonShell.Interpreter.Execute
import JsonShell.Module.Loader
import JsonShell.Module.Output
import JsonShell.Module.Prepared
import JsonShell.Interpreter.Print
import JsonShell.Interpreter.Run
import JsonShell.Module.Script
import JsonShell.Arguments
import JsonShell.Builtin
import JsonShell.Session.Action
import JsonShell.Session.Call
import JsonShell.Session.Command
import JsonShell.Session.Execute
import JsonShell.CommandLine.Run
import JsonShell.Main
import JsonShell.Proofs.Session.Run
import JsonShell.Proofs.Session.Deed
import JsonShell.Proofs.Session.Law
import JsonShell.Proofs.Session.FailFast
import JsonShell.Proofs.Session.Sample
import JsonShell.Proofs.Session.Variables
import JsonShell.Proofs.Pipeline.Plan
import JsonShell.Proofs.Pipeline.Evaluation
import JsonShell.Proofs.Session.Place
import JsonShell.Proofs.Session.Progress
import JsonShell.Proofs.Session.Typing
import JsonShell.Proofs.Session.Location
import JsonShell.Proofs.Session.Validity
import JsonShell.Proofs.File.Writing
import JsonShell.Proofs.Session.Report
import JsonShell.Proofs.Line.Word
import JsonShell.Proofs.Text.Numeral
import JsonShell.Proofs.Loop.Scan
import JsonShell.Proofs.Variable.Expansion
import JsonShell.Proofs.Loop.Printing
import JsonShell.Proofs.Loop.Balance
import JsonShell.Proofs.Loop.Range
import JsonShell.Proofs.Session.Dispatch
import JsonShell.Proofs.Session.Nest
import JsonShell.Proofs.Loop.RoundTrip
import JsonShell.Proofs.Line.Pipe
import JsonShell.Proofs.Session.Branch
import JsonShell.Proofs.Variable.Piece
import JsonShell.Proofs.Variable.Word
import JsonShell.Proofs.Variable.Assignment
import JsonShell.Proofs.Session.BodyCall
import JsonShell.Proofs.Text.Trim
import JsonShell.Proofs.Text.Utf8
import JsonShell.Proofs.Text.Split
import JsonShell.Proofs.Text.Width
import JsonShell.Proofs.Text.Lines
import JsonShell.Proofs.Loop.Shape
import JsonShell.Proofs.Session.TrailingPipe
import JsonShell.Proofs.Dictionary
import JsonShell.Proofs.Record
import JsonShell.Proofs.History
import JsonShell.Proofs.Session.Termination
import JsonShell.Proofs.Pipeline.Directive
import JsonShell.Proofs.Session.Binding
import JsonShell.Proofs.Line.Quoting
import JsonShell.Proofs.Line.Content
import JsonShell.Proofs.Decimal.Literal
import JsonShell.Proofs.Decimal.Nearest
import JsonShell.Proofs.Decimal.Integer
import JsonShell.Proofs.Pipeline.Head
import JsonShell.Proofs.Pipeline.Number
import JsonShell.Proofs.Loop.Items
import JsonShell.Proofs.Pipeline.Selection
import JsonShell.Proofs.Render.Table
import JsonShell.Proofs.Text.Steady
import JsonShell.Proofs.Render.Fields
import JsonShell.Proofs.Json.Entry
import JsonShell.Proofs.Json.Printer
import JsonShell.Proofs.Render.Listing
import JsonShell.Proofs.Diagnostic
import JsonShell.Proofs.Render.Color
import JsonShell.Proofs.Config.Line
import JsonShell.Proofs.Config.LastValue
import JsonShell.Proofs.Config.Usable
import JsonShell.Proofs.File.Route
import JsonShell.Proofs.File.Holding
import JsonShell.Proofs.Module.Loader
import JsonShell.Proofs.Module.Listing
import JsonShell.Proofs.File.Component
import JsonShell.Proofs.Config.Home
import JsonShell.Proofs.Prompt
import JsonShell.Proofs.Checked.Access
import JsonShell.Proofs.Checked.Scan
import JsonShell.Proofs.Loop.Agreement
import JsonShell.Proofs.Checked.Parser
