import Folio.Command.Arguments
import Folio.Command.Run
import Folio.Command.Token
import Folio.Console.Cell
import Folio.Console.Message
import Folio.Console.Print
import Folio.Console.Styled
import Folio.Console.Wrap
import Folio.Data.Dialect
import Folio.Data.Input
import Folio.Decimal.Binary64
import Folio.Decimal.Digits
import Folio.Decimal.Layout
import Folio.Decimal.Numeral
import Folio.Decimal.Shortest
import Folio.Document.Compose
import Folio.Document.Files
import Folio.Document.Format
import Folio.Failure
import Folio.Json.Fault
import Folio.Json.Read
import Folio.Json.Scan
import Folio.Json.Write
import Folio.Library.Basic
import Folio.Library.Snippet
import Folio.Library.Stored
import Folio.Logging
import Folio.Main
import Folio.Markup.Converter
import Folio.Markup.Escape
import Folio.Markup.Inline
import Folio.Markup.Line
import Folio.Proofs.Command.Arguments
import Folio.Proofs.Command.FileRendering
import Folio.Proofs.Command.Outcome
import Folio.Proofs.Command.Session
import Folio.Proofs.Data.Bracketed
import Folio.Proofs.Data.Dialect
import Folio.Proofs.Data.Trimming
import Folio.Proofs.Decimal.Digits
import Folio.Proofs.Decimal.Display
import Folio.Proofs.Decimal.Nearest
import Folio.Proofs.Decimal.Reading
import Folio.Proofs.Decimal.Rounding
import Folio.Proofs.Decimal.Shortest
import Folio.Proofs.Decimal.Spelling
import Folio.Proofs.Document.Exporting
import Folio.Proofs.Document.PlainFormats
import Folio.Proofs.Json.Blocks
import Folio.Proofs.Json.Limits
import Folio.Proofs.Json.Strings
import Folio.Proofs.Library.Damage
import Folio.Proofs.Library.Loading
import Folio.Proofs.Library.OrderedMap
import Folio.Proofs.Library.Reloading
import Folio.Proofs.Library.RoundTrip
import Folio.Proofs.Markup.Balance
import Folio.Proofs.Markup.Blocks
import Folio.Proofs.Markup.CodeSpans
import Folio.Proofs.Markup.Conservation
import Folio.Proofs.Markup.Documents
import Folio.Proofs.Markup.Emphasis
import Folio.Proofs.Markup.Entities
import Folio.Proofs.Markup.Escaping
import Folio.Proofs.Markup.Fences
import Folio.Proofs.Markup.Lines
import Folio.Proofs.Markup.LinkAddress
import Folio.Proofs.Markup.Marked
import Folio.Proofs.Markup.Nesting
import Folio.Proofs.Markup.OpenBlocks
import Folio.Proofs.Markup.TagReading
import Folio.Proofs.Markup.Tags
import Folio.Proofs.Markup.Unescaping
import Folio.Proofs.Storage.Frame
import Folio.Proofs.Storage.Naming
import Folio.Proofs.Storage.Writing
import Folio.Proofs.Template.Alike
import Folio.Proofs.Template.Balance
import Folio.Proofs.Template.Concatenation
import Folio.Proofs.Template.Cut
import Folio.Proofs.Template.Dependence
import Folio.Proofs.Template.Marker
import Folio.Proofs.Template.Meaning
import Folio.Proofs.Template.Occurrences
import Folio.Proofs.Template.Scope
import Folio.Proofs.Template.Spelling
import Folio.Proofs.Text.Cut
import Folio.Proofs.Text.Scan
import Folio.Proofs.Text.Splitting
import Folio.Proofs.Text.Utf8
import Folio.Proofs.Text.Wide
import Folio.Report
import Folio.Settings.Basic
import Folio.Settings.EnvFile
import Folio.Storage.FileSystem
import Folio.Storage.Path
import Folio.Template.Marker
import Folio.Template.Node
import Folio.Template.Parse
import Folio.Template.Render
import Folio.Text.Basic
import Folio.Text.Blank
import Folio.Text.Class
import Folio.Text.LetterCase
import Folio.Text.Line
import Folio.Text.Pattern
import Folio.Text.Quoted
import Folio.Text.Table.Digit
import Folio.Text.Table.LetterCase
import Folio.Text.Table.Unprintable
import Folio.Text.Table.Width
import Folio.Text.Table.Word
import Folio.Text.Utf8
import Folio.Text.Wide
import Folio.Value.Basic
import Folio.Value.Display
