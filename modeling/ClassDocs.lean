import ClassDocs.Command.Arguments
import ClassDocs.Command.Run
import ClassDocs.Comment
import ClassDocs.Config
import ClassDocs.Entity
import ClassDocs.Error
import ClassDocs.Files.Path
import ClassDocs.Files.Pattern
import ClassDocs.Files.Search
import ClassDocs.Files.System
import ClassDocs.Json
import ClassDocs.Library.Index
import ClassDocs.Library.Layout
import ClassDocs.Library.Listing
import ClassDocs.Library.Reflect
import ClassDocs.Library.Tree
import ClassDocs.Link
import ClassDocs.Main
import ClassDocs.Markup.Block
import ClassDocs.Markup.BlockStart
import ClassDocs.Markup.Container
import ClassDocs.Markup.Cursor
import ClassDocs.Markup.Definition
import ClassDocs.Markup.Document
import ClassDocs.Markup.Emphasis
import ClassDocs.Markup.Entities
import ClassDocs.Markup.Html
import ClassDocs.Markup.Inline
import ClassDocs.Markup.Line
import ClassDocs.Markup.LinkParts
import ClassDocs.Markup.Marks
import ClassDocs.Markup.NamedEntities
import ClassDocs.Markup.Node
import ClassDocs.Markup.RawHtml
import ClassDocs.Markup.Table
import ClassDocs.Menu
import ClassDocs.Menu.Build
import ClassDocs.Page.Format
import ClassDocs.Page.Json
import ClassDocs.Page.Markdown
import ClassDocs.Proofs.Command.Arguments
import ClassDocs.Proofs.Command.Failures
import ClassDocs.Proofs.Command.Modes
import ClassDocs.Proofs.Command.Site
import ClassDocs.Proofs.Comment.RoundTrip
import ClassDocs.Proofs.Comment.TagLine
import ClassDocs.Proofs.Distinct
import ClassDocs.Proofs.Entity
import ClassDocs.Proofs.Except
import ClassDocs.Proofs.Files.Changes
import ClassDocs.Proofs.Files.NewDirectories
import ClassDocs.Proofs.Files.Order
import ClassDocs.Proofs.Files.Paths
import ClassDocs.Proofs.Files.Pattern
import ClassDocs.Proofs.Files.Roots
import ClassDocs.Proofs.Files.Search
import ClassDocs.Proofs.Files.Tree
import ClassDocs.Proofs.Json
import ClassDocs.Proofs.Library.Collisions
import ClassDocs.Proofs.Library.Discovery
import ClassDocs.Proofs.Library.Documentation
import ClassDocs.Proofs.Library.Inheritance
import ClassDocs.Proofs.Library.Insertion
import ClassDocs.Proofs.Library.Lookup
import ClassDocs.Proofs.Library.Names
import ClassDocs.Proofs.Library.Sources
import ClassDocs.Proofs.Library.Spelling
import ClassDocs.Proofs.Library.Tree
import ClassDocs.Proofs.Page.Json
import ClassDocs.Proofs.Page.Kinds
import ClassDocs.Proofs.SortedMap
import ClassDocs.Proofs.Source.Attachment
import ClassDocs.Proofs.Source.BlockComments
import ClassDocs.Proofs.Source.Braces
import ClassDocs.Proofs.Source.ClassBody
import ClassDocs.Proofs.Source.ClassText
import ClassDocs.Proofs.Source.CodeTokens
import ClassDocs.Proofs.Source.DocBlocks
import ClassDocs.Proofs.Source.DocLines
import ClassDocs.Proofs.Source.LineEndings
import ClassDocs.Proofs.Source.MethodEnds
import ClassDocs.Proofs.Source.MethodOrder
import ClassDocs.Proofs.Source.Nesting
import ClassDocs.Proofs.Source.Ranges
import ClassDocs.Proofs.Source.RoundTrip
import ClassDocs.Proofs.Source.ScanRun
import ClassDocs.Proofs.Source.ScanStep
import ClassDocs.Proofs.Source.Semicolons
import ClassDocs.Proofs.Source.Slices
import ClassDocs.Proofs.TagMap
import ClassDocs.Proofs.Text.Lines
import ClassDocs.Proofs.Text.Lowercase
import ClassDocs.Proofs.Text.Words
import ClassDocs.SortedMap
import ClassDocs.Source.Braces
import ClassDocs.Source.Declaration
import ClassDocs.Source.Outline
import ClassDocs.Source.Scan
import ClassDocs.Source.Slice
import ClassDocs.TagMap
import ClassDocs.TagRule
import ClassDocs.Text.Blank
import ClassDocs.Text.CaseFold
import ClassDocs.Text.Lines
import ClassDocs.Text.Lowercase
import ClassDocs.Text.Ranges
import ClassDocs.Text.Symbol
import ClassDocs.Text.WordChar
import ClassDocs.Proofs.Menu.Pushes
import ClassDocs.Proofs.Source.Visibility
import ClassDocs.Proofs.Menu.Build
import ClassDocs.Proofs.Library.Catalogue
import ClassDocs.Proofs.Library.Listing
import ClassDocs.Proofs.Link
import ClassDocs.Proofs.Page.Menu
import ClassDocs.Proofs.Page.References
