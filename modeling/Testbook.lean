import Testbook.Text.Basic
import Testbook.Text.Blank
import Testbook.Text.Digits
import Testbook.Text.Alphabet
import Testbook.Text.Identifier
import Testbook.Text.Case
import Testbook.Markup.Line
import Testbook.Markup.Block
import Testbook.Markup.Enumerator
import Testbook.Markup.Marker
import Testbook.Markup.Segment
import Testbook.Markup.Parse
import Testbook.Markup.Inline
import Testbook.Html.Render
import Testbook.Number.Binary64
import Testbook.Number.Numeral
import Testbook.Number.Shortest
import Testbook.Python.Escape
import Testbook.Python.Literal
import Testbook.Python.Docstring
import Testbook.Python.Number
import Testbook.Python.Syntax
import Testbook.Python.Cursor
import Testbook.Python.Reader
import Testbook.Python.StringReader
import Testbook.Python.Expression
import Testbook.Python.Statement
import Testbook.Python.Render
import Testbook.Python.Module
import Testbook.Html.Fragment
import Testbook.ReadFault
import Testbook.Registry.Problem
import Testbook.Failure
import Testbook.Notice
import Testbook.Record.Fields
import Testbook.Record.Documented
import Testbook.Record.Steps
import Testbook.Record.Markers
import Testbook.Record.Scope
import Testbook.Toml.Value
import Testbook.Toml.Reader
import Testbook.Toml.Scalar
import Testbook.Toml.Document
import Testbook.Registry.Table
import Testbook.Path
import Testbook.Record.Basic
import Testbook.Registry.Rule
import Testbook.Registry.Basic
import Testbook.Registry.Builtin
import Testbook.Registry.Apply
import Testbook.Registry.Settings
import Testbook.Record.Naming
import Testbook.FileTree.Basic
import Testbook.FileTree.Walk
import Testbook.Collection.Basic
import Testbook.Collection.Source
import Testbook.Collection.Collect
import Testbook.Collection.Requirement
import Testbook.Collection.Validation
import Testbook.Report.Json
import Testbook.Report.Document
import Testbook.Report.Listing
import Testbook.Command.Arguments
import Testbook.Command.Filter
import Testbook.Command.Run
import Testbook.Main
import Testbook.Proofs.Text.Solid
import Testbook.Proofs.Text.Margin
import Testbook.Proofs.Text.Replace
import Testbook.Proofs.Text.Pieces
import Testbook.Proofs.Text.Words
import Testbook.Proofs.Text.Decimal
import Testbook.Proofs.Markup.Step
import Testbook.Proofs.Markup.Leaves
import Testbook.Proofs.Markup.Renumber
import Testbook.Proofs.Markup.Indent
import Testbook.Proofs.Markup.Written
import Testbook.Proofs.Markup.NumberedList
import Testbook.Proofs.Markup.FieldList
import Testbook.Proofs.Html.Tree
import Testbook.Proofs.Html.Reading
import Testbook.Proofs.Html.WellFormed
import Testbook.Proofs.Html.OrderedList
import Testbook.Proofs.Html.ShownText
import Testbook.Proofs.Record.StepPairs
import Testbook.Proofs.Record.Resolve
import Testbook.Proofs.Record.Markers
import Testbook.Proofs.Registry.Declared
import Testbook.Proofs.Registry.Pipeline
import Testbook.Proofs.Markup.Break
import Testbook.Proofs.Markup.Lines
import Testbook.Proofs.Markup.Shift
import Testbook.Proofs.Text.Tabs
import Testbook.Proofs.Markup.Joined
import Testbook.Proofs.Registry.Layer
import Testbook.Proofs.Text.Returns
import Testbook.Proofs.Python.Escape
import Testbook.Proofs.Python.Literal
import Testbook.Proofs.Python.Ordinary
import Testbook.Proofs.Python.Accepted
import Testbook.Proofs.Python.Decorator
import Testbook.Proofs.Python.Docstring
import Testbook.Proofs.Record.LineEndings
import Testbook.Proofs.Path.Components
import Testbook.Proofs.FileTree.Find
import Testbook.Proofs.FileTree.Walk
import Testbook.Proofs.FileTree.Change
import Testbook.Proofs.Collection.Cache
import Testbook.Proofs.Collection.Account
import Testbook.Proofs.Collection.Ignored
import Testbook.Proofs.Collection.ModulePath
import Testbook.Proofs.Html.Position
import Testbook.Proofs.Record.Paragraphs
import Testbook.Proofs.Python.Yields
import Testbook.Proofs.Python.Spine
import Testbook.Proofs.Python.Sound
import Testbook.Proofs.Python.Names
import Testbook.Proofs.Record.MarkerNames
import Testbook.Proofs.Record.Annotations
import Testbook.Proofs.Path.Dotted
import Testbook.Proofs.Collection.Records
import Testbook.Proofs.Collection.QualifiedId
import Testbook.Proofs.Collection.ReportKey
import Testbook.Proofs.Registry.Settings
import Testbook.Proofs.Markup.Inline
import Testbook.Proofs.Report.Json
import Testbook.Proofs.Command.Filter
import Testbook.Proofs.Command.Agreement
import Testbook.Proofs.Markup.Ordinals
import Testbook.Proofs.Markup.Shape
import Testbook.Proofs.Html.FieldTables
import Testbook.Proofs.Markup.MessageLines
import Testbook.Proofs.Markup.ItemLine
import Testbook.Proofs.Markup.Runs
import Testbook.Proofs.Record.Layered
import Testbook.Proofs.Text.Case
import Testbook.Proofs.Registry.Idempotence
import Testbook.Proofs.Collection.Requirements
import Testbook.Proofs.Collection.Defects
import Testbook.Proofs.Html.Pieces
import Testbook.Proofs.Html.Layout
import Testbook.Proofs.Html.Cut
import Testbook.Proofs.Record.StepItems
import Testbook.Proofs.Record.Pairs
import Testbook.Proofs.Results
import Testbook.Proofs.Markup.Roman
import Testbook.Proofs.Python.Integer
import Testbook.Proofs.Registry.Script
import Testbook.Proofs.Markup.Indexed
import Testbook.Proofs.Markup.Progress
