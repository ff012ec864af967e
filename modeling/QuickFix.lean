import QuickFix.Action.Basic
import QuickFix.Action.Resolve
import QuickFix.Action.Source
import QuickFix.Capture.Basic
import QuickFix.Decimal.Nearest
import QuickFix.Decimal.Shortest
import QuickFix.Diagnostic
import QuickFix.Document.Basic
import QuickFix.Document.Edit
import QuickFix.Document.WorkspaceEdit
import QuickFix.Engine.Basic
import QuickFix.Engine.Provider
import QuickFix.Json.Basic
import QuickFix.Json.Number
import QuickFix.Json.Parser
import QuickFix.Json.Printer
import QuickFix.Locate.Basic
import QuickFix.Lsp.Action
import QuickFix.Lsp.Diagnostic
import QuickFix.Lsp.Position
import QuickFix.Lsp.Uri
import QuickFix.Path.Basic
import QuickFix.Path.Component
import QuickFix.Path.Normal
import QuickFix.Proofs.Batch
import QuickFix.Proofs.Chase
import QuickFix.Proofs.ClientLines
import QuickFix.Proofs.ClientPosition
import QuickFix.Proofs.CodeUnits
import QuickFix.Proofs.Collision
import QuickFix.Proofs.Continuation
import QuickFix.Proofs.Convergence
import QuickFix.Proofs.Covering
import QuickFix.Proofs.Expansion
import QuickFix.Proofs.FileUri
import QuickFix.Proofs.Gates
import QuickFix.Proofs.Grouping
import QuickFix.Proofs.Halting
import QuickFix.Proofs.History
import QuickFix.Proofs.Insertion
import QuickFix.Proofs.Invocation
import QuickFix.Proofs.Landing
import QuickFix.Proofs.Lines
import QuickFix.Proofs.Loading
import QuickFix.Proofs.Match
import QuickFix.Proofs.NormalPath
import QuickFix.Proofs.Occurrence
import QuickFix.Proofs.OrderedMap
import QuickFix.Proofs.Preference
import QuickFix.Proofs.Projection
import QuickFix.Proofs.Prompting
import QuickFix.Proofs.Reapplication
import QuickFix.Proofs.Reference
import QuickFix.Proofs.Reload
import QuickFix.Proofs.Rendering
import QuickFix.Proofs.Repetition
import QuickFix.Proofs.Replacement
import QuickFix.Proofs.Resolution
import QuickFix.Proofs.Scanning
import QuickFix.Proofs.Sending
import QuickFix.Proofs.StableSort
import QuickFix.Proofs.Suppression
import QuickFix.Proofs.Uri
import QuickFix.Proofs.Utf8
import QuickFix.Proofs.WellFormed
import QuickFix.Proofs.Workspace
import QuickFix.Proofs.WorkspaceEdit
import QuickFix.Regex.Basic
import QuickFix.Regex.Bracket
import QuickFix.Regex.CharSet
import QuickFix.Regex.Escape
import QuickFix.Regex.Flags
import QuickFix.Regex.NamedClass
import QuickFix.Regex.Node
import QuickFix.Regex.Parser
import QuickFix.Regex.Program
import QuickFix.Regex.Search
import QuickFix.Rule.Basic
import QuickFix.Rule.Step
import QuickFix.Settings.Load
import QuickFix.Settings.Schema
import QuickFix.Settings.Selector
import QuickFix.Template.Basic
import QuickFix.Template.Context
import QuickFix.Text.Blank
import QuickFix.Text.Find
import QuickFix.Text.Lines
import QuickFix.Text.Position
import QuickFix.Text.Rewrite
import QuickFix.Text.Utf16
import QuickFix.Text.Utf8
import QuickFix.Unicode.Band
import QuickFix.Unicode.CaseFold
import QuickFix.Unicode.Letter
import QuickFix.Unicode.Mark
import QuickFix.Unicode.Numeral
import QuickFix.Unicode.Script
import QuickFix.Unicode.Separator
import QuickFix.Unicode.Symbol
import QuickFix.Unicode.Trait
import QuickFix.Workspace.Basic
import QuickFix.Workspace.Invoke
import QuickFix.Yaml.Core
import QuickFix.Yaml.Cursor
import QuickFix.Yaml.Document
import QuickFix.Yaml.Error
import QuickFix.Yaml.Layout
import QuickFix.Yaml.Lexer
import QuickFix.Yaml.Node
import QuickFix.Yaml.Reader
import QuickFix.Yaml.Scalar.Block
import QuickFix.Yaml.Scalar.Gap
import QuickFix.Yaml.Scalar.Plain
import QuickFix.Yaml.Scalar.Quoted
import QuickFix.Yaml.Tag
import QuickFix.Yaml.Token
import QuickFix.Yaml.Value
import QuickFix.Proofs.CanonicalPath
import QuickFix.Proofs.DefaultFile
import QuickFix.Proofs.ClientNumbers
import QuickFix.Proofs.SentDiagnostics
import QuickFix.Proofs.EmptyRange
import QuickFix.Proofs.PlainText
import QuickFix.Proofs.Numerals
import QuickFix.Proofs.ListedTable
import QuickFix.Proofs.RenderedReplacement
import QuickFix.Proofs.FileNames
import QuickFix.Proofs.Selector
