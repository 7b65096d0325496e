import Folio.Failure
import Folio.Library.Snippet

/-! What the program has to say, before it is set in lines. How a message looks, and whether it can be
printed at all, is up to the console. -/
namespace Folio

/-- A snippet as a list shows it. -/
structure SnippetRow where
  kind : Library.Kind
  name : WideText
  length : Nat
  firstLine : WideText

inductive Message
  | document (content : Text)
  | snippets (rows : List SnippetRow)
  | saved (kind : Library.Kind) (name : WideText)
  | deleted (kind : Library.Kind) (name : WideText)
  | mistake (message : Text)
  | refusal (message : Text)
  | panel (title message : Text)

/-- A console prints a message as a text, on either of its two streams, or fails. -/
structure Console where
  out : Message → Except Failure Text
  err : Message → Except Failure Text

end Folio
