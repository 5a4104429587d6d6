import Highlight.CommandLine.Arguments
import Highlight.CommandLine.Files
import Highlight.CommandLine.Run
import Highlight.Decoration.Bounds
import Highlight.Decoration.Cache
import Highlight.Decoration.Decorator
import Highlight.Decoration.Options
import Highlight.Dictionary
import Highlight.Document.Basic
import Highlight.Document.Block
import Highlight.Document.Fragment
import Highlight.Document.Key
import Highlight.Fault
import Highlight.Grammar.Basic
import Highlight.Grammar.FileName
import Highlight.Grammar.Piece
import Highlight.Grammar.Registry
import Highlight.Grammar.Rule
import Highlight.Json.Number
import Highlight.Json.Print
import Highlight.Json.Read
import Highlight.Json.Text
import Highlight.Json.Value
import Highlight.Language.All
import Highlight.Language.C
import Highlight.Language.JavaScript
import Highlight.Language.Markup
import Highlight.Language.Parts
import Highlight.Language.Python
import Highlight.Language.Rust
import Highlight.Language.Toml
import Highlight.Main
import Highlight.Mark.Basic
import Highlight.Mark.Text
import Highlight.Number.Digits
import Highlight.Number.Double
import Highlight.Pattern.Basic
import Highlight.Pattern.Match
import Highlight.Pattern.Places
import Highlight.Pattern.Written.Error
import Highlight.Pattern.Written.Escape
import Highlight.Pattern.Written.Flags
import Highlight.Pattern.Written.Property
import Highlight.Pattern.Written.Read
import Highlight.Pattern.Written.Set
import Highlight.Render.Basic
import Highlight.Render.Html
import Highlight.Render.Style
import Highlight.Render.Terminal
import Highlight.Render.Theme
import Highlight.Settings.Basic
import Highlight.Settings.File
import Highlight.Settings.Toml
import Highlight.Text.ByteOffset
import Highlight.Text.CaseFolding
import Highlight.Text.CaseMapping
import Highlight.Text.CharSet
import Highlight.Text.CharTable
import Highlight.Text.DecimalDigit
import Highlight.Text.Emoji
import Highlight.Text.GeneralCategory
import Highlight.Text.Letters
import Highlight.Text.Line
import Highlight.Text.Lowercase
import Highlight.Text.Order
import Highlight.Text.Parts
import Highlight.Text.Script
import Highlight.Text.Signs
import Highlight.Text.Span
import Highlight.Text.Utf8
import Highlight.Text.WhiteSpace
import Highlight.Text.WordCharacter
import Highlight.Token.Basic
import Highlight.Token.Json
import Highlight.Token.Label
import Highlight.Token.Leaf
import Highlight.Toml.Layout
import Highlight.Toml.Moment
import Highlight.Toml.Number
import Highlight.Toml.Read
import Highlight.Toml.Table
import Highlight.Toml.Text
import Highlight.Proofs.Document.Numbering
import Highlight.Proofs.Document.Pool
import Highlight.Proofs.Text.JoinedLines
import Highlight.Proofs.Document.Layout
import Highlight.Proofs.Token.Flattening
import Highlight.Proofs.Token.Path
import Highlight.Proofs.Token.Walking
import Highlight.Proofs.Decoration.Leaves
import Highlight.Proofs.Decoration.Caching
import Highlight.Proofs.Decoration.Session
import Highlight.Proofs.Decoration.Uses
import Highlight.Proofs.Grammar.Pieces
import Highlight.Proofs.Grammar.Partition
import Highlight.Proofs.Grammar.Extension
import Highlight.Proofs.Grammar.Depth
import Highlight.Proofs.Text.SmallLetters
import Highlight.Proofs.Grammar.Naming
import Highlight.Proofs.Decoration.Failure
import Highlight.Proofs.Decoration.Exactness
import Highlight.Proofs.Decoration.Modes
import Highlight.Proofs.Decoration.Additions
import Highlight.Proofs.Document.Positions
import Highlight.Proofs.Document.LineEndings
import Highlight.Proofs.Document.Revision
import Highlight.Proofs.Mark.Grouping
import Highlight.Proofs.Mark.Sameness
import Highlight.Proofs.Mark.Runs
import Highlight.Proofs.Mark.Union
import Highlight.Proofs.Render.Html
import Highlight.Proofs.Render.Page
import Highlight.Proofs.Render.Terminal
import Highlight.Proofs.CommandLine.Page
import Highlight.Proofs.CommandLine.TokenDump
import Highlight.Proofs.CommandLine.Colors
import Highlight.Proofs.Json.Layout
import Highlight.Proofs.Json.Nesting
import Highlight.Proofs.Json.Quoting
import Highlight.Proofs.Json.Reading
import Highlight.Proofs.Token.RoundTrip
import Highlight.Proofs.Decoration.Calls
import Highlight.Proofs.Toml.Quoting
import Highlight.Proofs.Toml.Fields
import Highlight.Proofs.Settings.RoundTrip
import Highlight.Proofs.CommandLine.SavedSettings
import Highlight.Proofs.Pattern.Reach
import Highlight.Proofs.Pattern.Passing
import Highlight.Proofs.Pattern.Preference
import Highlight.Proofs.Pattern.Spelling
import Highlight.Proofs.Language.Enclosing
import Highlight.Proofs.Grammar.PlainText
import Highlight.Proofs.Language.CommentScan
import Highlight.Proofs.Grammar.PlaceByPlace
import Highlight.Proofs.Language.LongStrings
import Highlight.Proofs.Language.TemplateRun
import Highlight.Proofs.Language.TripleQuoteRun
import Highlight.Proofs.Language.CommentBehindString
import Highlight.Proofs.Grammar.Resolution
import Highlight.Proofs.Language.Alone
import Highlight.Proofs.Language.TemplateLiteral
import Highlight.Proofs.Pattern.Shifting
import Highlight.Proofs.Pattern.Search
import Highlight.Proofs.Grammar.Isolation
import Highlight.Proofs.Grammar.FirstRule
import Highlight.Proofs.Language.TemplateParts
import Highlight.Proofs.Language.TagShape
import Highlight.Proofs.Language.TagParts
import Highlight.Proofs.Document.Mutations
import Highlight.Proofs.Decoration.Copies
import Highlight.Proofs.Text.Bytes
import Highlight.Proofs.Render.InnermostStyle
import Highlight.Proofs.CommandLine.Units
import Highlight.Proofs.CommandLine.Outcome
import Highlight.Proofs.Grammar.EarlyExit
import Highlight.Proofs.Pattern.SearchInBytes
import Highlight.Proofs.Grammar.PieceLoops
import Highlight.Proofs.Grammar.Totality
import Highlight.Proofs.Decoration.Shares
