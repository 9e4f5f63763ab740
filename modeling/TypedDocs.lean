import TypedDocs.Annotate
import TypedDocs.CommandLine.Arguments
import TypedDocs.CommandLine.Run
import TypedDocs.Comment.Build
import TypedDocs.Comment.Parse
import TypedDocs.Comment.Tag
import TypedDocs.Declaration
import TypedDocs.Edit
import TypedDocs.FileSystem
import TypedDocs.Glob
import TypedDocs.Json.Number
import TypedDocs.Json.Parse
import TypedDocs.Json.Value
import TypedDocs.Main
import TypedDocs.Outline
import TypedDocs.Path
import TypedDocs.Plugin
import TypedDocs.Plugin.Config
import TypedDocs.Plugin.Options
import TypedDocs.Regex.Basic
import TypedDocs.Regex.Parse
import TypedDocs.Script.Lexer
import TypedDocs.Script.Lower
import TypedDocs.Script.Lower.Build
import TypedDocs.Script.Lower.Decorators
import TypedDocs.Script.Lower.Enums
import TypedDocs.Script.Lower.Erase
import TypedDocs.Script.Lower.Imports
import TypedDocs.Script.Lower.Library
import TypedDocs.Script.Lower.Namespaces
import TypedDocs.Script.Lower.Number
import TypedDocs.Script.Lower.Properties
import TypedDocs.Script.Lower.Using
import TypedDocs.Script.Node
import TypedDocs.Script.Outline
import TypedDocs.Script.Parens
import TypedDocs.Script.Parser
import TypedDocs.Script.Parser.Basic
import TypedDocs.Script.Parser.Expression
import TypedDocs.Script.Parser.Member
import TypedDocs.Script.Parser.Signature
import TypedDocs.Script.Parser.Statement
import TypedDocs.Script.Parser.Type
import TypedDocs.Script.Printer
import TypedDocs.Script.Rename
import TypedDocs.Script.Scope
import TypedDocs.Script.Token
import TypedDocs.Survey
import TypedDocs.Survey.Walk
import TypedDocs.Synthesis
import TypedDocs.Text.Basic
import TypedDocs.Text.Blank
import TypedDocs.Text.Category
import TypedDocs.Text.Digit
import TypedDocs.Text.Entity
import TypedDocs.Text.Escape
import TypedDocs.Text.Fold
import TypedDocs.Text.Identifier
import TypedDocs.Text.Property
import TypedDocs.Text.Quote
import TypedDocs.Text.Ranges
import TypedDocs.Text.Word
import TypedDocs.Text.WritingSystem
import TypedDocs.Transpile
import TypedDocs.Tree
import TypedDocs.TypeNames
import TypedDocs.Proofs.Edit.Stretch
import TypedDocs.Proofs.Survey.CommentSpans
import TypedDocs.Proofs.Annotate.Frame
import TypedDocs.Proofs.Text.Lines
import TypedDocs.Proofs.Text.Trim
import TypedDocs.Proofs.Comment.Layout
import TypedDocs.Proofs.Comment.Reading
import TypedDocs.Proofs.Comment.Format
import TypedDocs.Proofs.Synthesis.Result
import TypedDocs.Proofs.Annotate.Closing
import TypedDocs.Proofs.Synthesis.ReadBack
import TypedDocs.Proofs.Synthesis.Passes
import TypedDocs.Proofs.Comment.Rewriting
import TypedDocs.Proofs.Plugin.Session
import TypedDocs.Proofs.CommandLine.Outputs
import TypedDocs.Proofs.Edit.Order
import TypedDocs.Proofs.Edit.Overlap
import TypedDocs.Proofs.Edit.Splicing
import TypedDocs.Proofs.Synthesis.Effect
import TypedDocs.Proofs.Edit.Reordering
import TypedDocs.Proofs.Annotate.Mismatch
import TypedDocs.Proofs.Comment.Border
import TypedDocs.Proofs.Survey.Interleaving
import TypedDocs.Proofs.Comment.Grammar
import TypedDocs.Proofs.Comment.Relayout
import TypedDocs.Proofs.CommandLine.Includes
import TypedDocs.Proofs.Edit.Moved
import TypedDocs.Proofs.Text.LineHead
import TypedDocs.Proofs.Annotate.Rewriting
import TypedDocs.Proofs.Annotate.LineStart
import TypedDocs.Proofs.Survey.Between
import TypedDocs.Proofs.Annotate.Drift
import TypedDocs.Proofs.CommandLine.Isolation
import TypedDocs.Proofs.Json.Plain
import TypedDocs.Proofs.Plugin.Config
import TypedDocs.Proofs.Survey.Walk
import TypedDocs.Proofs.TypeNames
