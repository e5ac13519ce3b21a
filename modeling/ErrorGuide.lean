import ErrorGuide.Unicode.Ranges
import ErrorGuide.Unicode.Word
import ErrorGuide.Unicode.Blank
import ErrorGuide.Unicode.Fold
import ErrorGuide.Unicode.Category
import ErrorGuide.Unicode.Script
import ErrorGuide.Unicode.Property
import ErrorGuide.Json.Printer
import ErrorGuide.Text.Trim
import ErrorGuide.Text.Lines
import ErrorGuide.Text.Quoted
import ErrorGuide.Text.Scan
import ErrorGuide.Json.Reader
import ErrorGuide.Data.OrderedMap
import ErrorGuide.Json.Decode
import ErrorGuide.Trace.Codec
import ErrorGuide.Deck.Codec
import ErrorGuide.Explanation.Basic
import ErrorGuide.Html.Escape
import ErrorGuide.Deck.Locale
import ErrorGuide.Patch.Kind
import ErrorGuide.Report.Format
import ErrorGuide.Adapter.Registry
import ErrorGuide.Template.Context
import ErrorGuide.Patch.Rule
import ErrorGuide.Pattern.CharSet
import ErrorGuide.Pattern.Reader
import ErrorGuide.Pattern.Search
import ErrorGuide.Deck.Lint
import ErrorGuide.Explanation.Input
import ErrorGuide.Schema.Catalog
import ErrorGuide.Schema.Validation
import ErrorGuide.Files.Tree
import ErrorGuide.Deck.Loading
import ErrorGuide.Command.Run
import ErrorGuide.Command.Tasks
import ErrorGuide.Main
import ErrorGuide.Proofs.Explanation.Markup
import ErrorGuide.Proofs.Explanation.FirstMatch
import ErrorGuide.Proofs.Explanation.Repetition
import ErrorGuide.Proofs.Deck.Lint
import ErrorGuide.Proofs.Data.OrderedMap
import ErrorGuide.Proofs.Explanation.Presentation
import ErrorGuide.Proofs.Guide.History
import ErrorGuide.Proofs.Text.Scan
import ErrorGuide.Proofs.Trace.Marker
import ErrorGuide.Proofs.Adapter.Dispatch
import ErrorGuide.Proofs.Pattern.Expansion
import ErrorGuide.Proofs.Deck.Glossary
import ErrorGuide.Proofs.Explanation.Display
import ErrorGuide.Proofs.Explanation.Fragment
import ErrorGuide.Proofs.Deck.Locale
import ErrorGuide.Proofs.Deck.Malformed
import ErrorGuide.Proofs.Explanation.Respacing
import ErrorGuide.Proofs.Deck.Codec
import ErrorGuide.Proofs.Explanation.Input
import ErrorGuide.Proofs.Explanation.ReadBack
import ErrorGuide.Proofs.Explanation.Naming
import ErrorGuide.Proofs.Explanation.Relevance
import ErrorGuide.Proofs.Deck.Schema
import ErrorGuide.Proofs.Command.Coverage
import ErrorGuide.Proofs.Text.Numeral
import ErrorGuide.Proofs.Adapter.Location
import ErrorGuide.Proofs.Pattern.Rewriting
import ErrorGuide.Proofs.Template.Placeholder
import ErrorGuide.Proofs.Template.Rendering
import ErrorGuide.Proofs.Text.Places
import ErrorGuide.Proofs.Patch.Edits
import ErrorGuide.Proofs.Patch.Catalog
import ErrorGuide.Proofs.Text.Parts
import ErrorGuide.Proofs.Trace.Quotes
import ErrorGuide.Proofs.Adapter.Frames
import ErrorGuide.Proofs.Text.Trimmed
import ErrorGuide.Proofs.Trace.Tail
import ErrorGuide.Proofs.Adapter.Reading
import ErrorGuide.Proofs.Text.Pieces
import ErrorGuide.Proofs.Source.Window
import ErrorGuide.Proofs.Adapter.Snippet
import ErrorGuide.Proofs.Adapter.Context
import ErrorGuide.Proofs.Text.Bytes
import ErrorGuide.Proofs.Deck.Check
import ErrorGuide.Proofs.Command.Warning
import ErrorGuide.Proofs.Html.Escaped
