import PaperHtml.Assoc
import PaperHtml.Bibliography.Entry
import PaperHtml.Bibliography.Field
import PaperHtml.Bibliography.Reader
import PaperHtml.Citation.Command
import PaperHtml.Citation.Key
import PaperHtml.Citation.Link
import PaperHtml.Citation.Numbering
import PaperHtml.Citation.Resolve
import PaperHtml.CommandLine.Options
import PaperHtml.CommandLine.Run
import PaperHtml.Conversion.Cleanup
import PaperHtml.Conversion.Markdown
import PaperHtml.Conversion.Pass
import PaperHtml.Conversion.Plain
import PaperHtml.Engine.Pandoc
import PaperHtml.Html.CharacterReference
import PaperHtml.Html.Escape
import PaperHtml.Html.NamedCharacter
import PaperHtml.Html.Parser
import PaperHtml.Html.Printer
import PaperHtml.Html.Rejection
import PaperHtml.Html.Select
import PaperHtml.Html.StartTag
import PaperHtml.Html.Token
import PaperHtml.Html.Tree
import PaperHtml.Latex.Algorithm
import PaperHtml.Latex.Command
import PaperHtml.Latex.Comment
import PaperHtml.Latex.Document
import PaperHtml.Latex.Environment
import PaperHtml.Latex.Figure
import PaperHtml.Latex.Group
import PaperHtml.Latex.Theorem
import PaperHtml.Main
import PaperHtml.Markdown.Address
import PaperHtml.Markdown.Block
import PaperHtml.Markdown.Emphasis
import PaperHtml.Markdown.Inline
import PaperHtml.Markdown.InlineReader
import PaperHtml.Markdown.Line
import PaperHtml.Markdown.Literal
import PaperHtml.Markdown.Printer
import PaperHtml.Markdown.Reader
import PaperHtml.Markdown.Start
import PaperHtml.Markdown.Table
import PaperHtml.Markdown.Tag
import PaperHtml.Math.Guard
import PaperHtml.Math.Markup
import PaperHtml.Math.Span
import PaperHtml.Math.Typeset
import PaperHtml.Page.Basic
import PaperHtml.Page.Panel
import PaperHtml.Page.Template
import PaperHtml.Reference.Anchor
import PaperHtml.Reference.Authors
import PaperHtml.Reference.Detail
import PaperHtml.Reference.Line
import PaperHtml.Session.Engines
import PaperHtml.Session.Load
import PaperHtml.Session.Outcome
import PaperHtml.Session.Output
import PaperHtml.Setup.Installer
import PaperHtml.Source.Fetch
import PaperHtml.Source.Folder
import PaperHtml.Source.Query
import PaperHtml.Source.IpAddress
import PaperHtml.Source.Url
import PaperHtml.Text.Alphanumeric
import PaperHtml.Text.Basic
import PaperHtml.Text.Blank
import PaperHtml.Text.Casing
import PaperHtml.Text.Lines
import PaperHtml.Text.Lowercase
import PaperHtml.Text.Punctuation
import PaperHtml.Text.Quoted
import PaperHtml.Text.Ranges
import PaperHtml.Text.Scan
import PaperHtml.Text.Unprintable
import PaperHtml.Text.Utf8
import PaperHtml.Text.Word
import PaperHtml.Window.Basic
import PaperHtml.Window.Layout
import PaperHtml.Window.Worker
import PaperHtml.Proofs.Citation.Numbering
import PaperHtml.Proofs.Citation.Document
import PaperHtml.Proofs.Citation.CommentedOut
import PaperHtml.Proofs.Html.Building
import PaperHtml.Proofs.Html.Escaping
import PaperHtml.Proofs.Html.Markup
import PaperHtml.Proofs.Html.Selecting
import PaperHtml.Proofs.Math.Guarding
import PaperHtml.Proofs.Math.Parts
import PaperHtml.Proofs.Math.Restoring
import PaperHtml.Proofs.Math.Reopening
import PaperHtml.Proofs.Math.Setting
import PaperHtml.Proofs.Math.Unguarded
import PaperHtml.Proofs.Page.Changes
import PaperHtml.Proofs.Page.Empty
import PaperHtml.Proofs.Page.Fragments
import PaperHtml.Proofs.Page.Frame
import PaperHtml.Proofs.Page.Layout
import PaperHtml.Proofs.Page.Steady
import PaperHtml.Proofs.Reference.Anchors
import PaperHtml.Proofs.Reference.Annotation
import PaperHtml.Proofs.Reference.Elements
import PaperHtml.Proofs.Reference.Fields
import PaperHtml.Proofs.Reference.Fragments
import PaperHtml.Proofs.Session.Citations
import PaperHtml.Proofs.Session.Ending
import PaperHtml.Proofs.Session.Framing
import PaperHtml.Proofs.Session.History
import PaperHtml.Proofs.Session.Loading
import PaperHtml.Proofs.Text.Scanning
import PaperHtml.Proofs.Text.Occurrences
import PaperHtml.Proofs.Bibliography.Boundary
import PaperHtml.Proofs.Bibliography.WrittenEntry
import PaperHtml.Proofs.Bibliography.Blocks
import PaperHtml.Proofs.Html.Verbatim
import PaperHtml.Proofs.Session.Containment
import PaperHtml.Proofs.Session.Outcomes
import PaperHtml.Proofs.Session.Formulas
import PaperHtml.Proofs.Session.Assets
import PaperHtml.Proofs.Session.Fallback
import PaperHtml.Proofs.Session.CitedEntries
import PaperHtml.Proofs.Html.Printing
import PaperHtml.Proofs.Page.Quiet
import PaperHtml.Proofs.Page.Writes
import PaperHtml.Proofs.Reference.Agreement
import PaperHtml.Proofs.Session.Clicks
import PaperHtml.Proofs.Text.Seams
import PaperHtml.Proofs.Conversion.Steps
import PaperHtml.Proofs.Conversion.Crossing
import PaperHtml.Proofs.Conversion.Listing
import PaperHtml.Proofs.Conversion.Fences
import PaperHtml.Proofs.Conversion.Algorithms
import PaperHtml.Proofs.Conversion.Prose
import PaperHtml.Proofs.Conversion.Comments
import PaperHtml.Proofs.Source.Fetching
import PaperHtml.Proofs.Text.Collapsing
import PaperHtml.Proofs.Bibliography.Citable
import PaperHtml.Proofs.Html.Surroundings
import PaperHtml.Proofs.Page.LinkedContent
import PaperHtml.Proofs.Page.Templates
import PaperHtml.Proofs.Reference.ReadBack
import PaperHtml.Proofs.Math.FormulaFree
import PaperHtml.Proofs.Math.Substituting
import PaperHtml.Proofs.Bibliography.BracedValue
import PaperHtml.Proofs.Window.Workers
import PaperHtml.Proofs.Math.Escapes
import PaperHtml.Proofs.Math.SetTexts
import PaperHtml.Proofs.Text.Interleaving
import PaperHtml.Proofs.Math.SideBySide
import PaperHtml.Proofs.Conversion.FormulaEnvironments
import PaperHtml.Proofs.Conversion.Styling
import PaperHtml.Proofs.Conversion.Insets
import PaperHtml.Proofs.Math.Recognition
import PaperHtml.Proofs.Math.Resetting
import PaperHtml.Proofs.Math.Mirroring
import PaperHtml.Proofs.Conversion.Arguments
import PaperHtml.Proofs.Conversion.Headings
import PaperHtml.Proofs.Conversion.WholeArguments
import PaperHtml.Proofs.Conversion.NestedStyles
import PaperHtml.Proofs.Conversion.Paragraphs
import PaperHtml.Proofs.Conversion.TheoremNames
import PaperHtml.Proofs.Conversion.BlockDocuments
import PaperHtml.Proofs.Conversion.BlockLines
import PaperHtml.Proofs.Conversion.Tidiness
import PaperHtml.Proofs.Conversion.BracketLines
import PaperHtml.Proofs.Conversion.Captions
import PaperHtml.Proofs.Conversion.Indentation
import PaperHtml.Proofs.Bibliography.Padding
import PaperHtml.Proofs.Reference.AuthorLists
import PaperHtml.Proofs.Reference.Slugs
