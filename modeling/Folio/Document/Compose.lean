import Folio.Data.Input
import Folio.Document.Format
import Folio.Markup.Converter
import Folio.Template.Render

/-! Documents from a template, data text and a style sheet. A template that cannot be parsed yields
a document that says so. -/
namespace Folio.Document

structure Composition where
  display : Text
  exported : Text
  mimeType : Text
  extension : Text
  deriving DecidableEq, Repr

-- whether some line after the first starts with a bullet or a number
def hasListLine : Text → Bool
  | [] => false
  | c :: s =>
    (c == '\n' && (['-', ' '].isPrefixOf s ||
      match Text.run? Text.isDigit s with
      | some (_, '.' :: ' ' :: _) => true
      | _ => false)) || hasListLine s

def looksMarkedUp (template : Text) : Bool :=
  ['#', ' '].isPrefixOf template || ['-', ' '].isPrefixOf template || hasListLine template

/-- The text of a template over data, or the notice that takes its place; and whether the template
was rejected. The program catches any other failure here as well, and puts a notice in its place: none
but a lack of room for the nesting of a template can be met, and that is not bounded here. -/
def expand (nesting : Nat) (template data : Text) : Text × Option Template.Imbalance :=
  match Template.render template (Data.readInput nesting data).1 with
  | .ok text => (text, none)
  | .error i => ("Error rendering template: ".toList ++ i.message, some i)

def wrap (content style : Text) : Text :=
  let container :=
    "<div class=\"templatimator-output\">".toList ++ content ++ "</div>".toList
  if style.isEmpty then container
  else container ++ "<style>".toList ++ style ++ "</style>".toList

def composeAs (nesting : Nat) (format : Format) (template data style : Text)
    (markup : Option Bool) : Composition :=
  let body := (expand nesting template data).1
  if format.isHtml then
    -- without a decision on markup the template decides
    let content := if markup.getD (looksMarkedUp template) then Markup.convert body else body
    let html := wrap content style
    ⟨html, html, format.mimeType, format.extension⟩
  else
    ⟨"<pre>".toList ++ Markup.escape body ++ "</pre>".toList, body, format.mimeType,
      format.extension⟩

def compose (nesting : Nat) (template data style : Text) (format : Value) (markup : Option Bool) :
    Except Format.Unknown Composition :=
  (Format.ofValue format).map fun format => composeAs nesting format template data style markup

end Folio.Document
