import Folio.Markup.Line

/-! Conversion of marked-up lines to HTML, one line at a time. At most one block is open besides the
paragraph that is being gathered; a line of another kind closes it. -/
namespace Folio.Markup

open Text (Pattern isBlank)

/-- Blocks whose opening and closing tags are written at different lines. -/
inductive Container
  | list (kind : ListKind)
  | quotation
  | code
  deriving DecidableEq, Repr

def ListKind.tag : ListKind → Text
  | .unordered => "ul".toList
  | .ordered => "ol".toList

def element (name content : Text) : Text :=
  ['<'] ++ name ++ ['>'] ++ content ++ ['<', '/'] ++ name ++ ['>']

/-- One piece of output: a tag of a container, or anything complete in itself. -/
inductive Emission
  | opens (c : Container)
  | closes (c : Container)
  | body (html : Text)
  deriving DecidableEq, Repr

def Emission.html : Emission → Text
  | .opens (.list kind) => ['<'] ++ kind.tag ++ ['>']
  | .closes (.list kind) => ['<', '/'] ++ kind.tag ++ ['>']
  | .opens .quotation => "<blockquote>".toList
  | .closes .quotation => "</blockquote>".toList
  | .opens .code => "<pre><code>".toList
  | .closes .code => "</code></pre>".toList
  | .body html => html

namespace Emission

@[simp] theorem html_opens_list (kind : ListKind) :
    (opens (.list kind)).html = ['<'] ++ kind.tag ++ ['>'] := rfl

@[simp] theorem html_closes_list (kind : ListKind) :
    (closes (.list kind)).html = ['<', '/'] ++ kind.tag ++ ['>'] := rfl

@[simp] theorem html_opens_quotation : (opens .quotation).html = "<blockquote>".toList := rfl

@[simp] theorem html_closes_quotation : (closes .quotation).html = "</blockquote>".toList := rfl

@[simp] theorem html_opens_code : (opens .code).html = "<pre><code>".toList := rfl

@[simp] theorem html_closes_code : (closes .code).html = "</code></pre>".toList := rfl

@[simp] theorem html_body (html : Text) : (body html).html = html := rfl

end Emission

/-- The output so far and what is still open. -/
structure Converter where
  emitted : Array Emission
  paragraph : List Text
  list : Option ListKind
  inQuotation : Bool
  inFence : Bool
  inTable : Bool
  header : Option Text
  rows : List Text

namespace Converter

def start : Converter := ⟨#[], [], none, false, false, false, none, []⟩

def emit (s : Converter) (e : Emission) : Converter := { s with emitted := s.emitted.push e }

def closeParagraph (s : Converter) : Converter :=
  if s.paragraph.isEmpty then s
  else
    let text := renderInline (Text.join [' '] s.paragraph)
    { s.emit (.body (element ['p'] text)) with paragraph := [] }

def closeList (s : Converter) : Converter :=
  match s.list with
  | none => s
  | some kind => { s.emit (.closes (.list kind)) with list := none }

def closeQuotation (s : Converter) : Converter :=
  if s.inQuotation then { s.emit (.closes .quotation) with inQuotation := false } else s

def cellsHtml (name row : Text) : Text :=
  (cells row).flatMap fun cell => element name (renderInline cell)

def tableHtml (header : Text) (rows : List Text) : Text :=
  "<table><thead><tr>".toList ++ cellsHtml ['t', 'h'] header ++ "</tr></thead><tbody>".toList ++
    rows.flatMap (fun row => element ['t', 'r'] (cellsHtml ['t', 'd'] row)) ++
    "</tbody></table>".toList

/-- A table without header leaves nothing behind. -/
def closeTable (s : Converter) : Converter :=
  if s.inTable then
    let done := match s.header with
      | some header => s.emit (.body (tableHtml header s.rows))
      | none => s
    { done with inTable := false, header := none, rows := [] }
  else s

section Closed

variable {s : Converter}

@[simp] theorem closeParagraph_of_nil (closed : s.paragraph = []) : s.closeParagraph = s := by
  simp [closeParagraph, closed]

@[simp] theorem closeList_of_none (closed : s.list = none) : s.closeList = s := by
  simp [closeList, closed]

@[simp] theorem closeQuotation_of_false (closed : s.inQuotation = false) :
    s.closeQuotation = s := by
  simp [closeQuotation, closed]

@[simp] theorem closeTable_of_false (closed : s.inTable = false) : s.closeTable = s := by
  simp [closeTable, closed]

end Closed

def closeBlocks (s : Converter) : Converter :=
  s.closeParagraph.closeList.closeQuotation.closeTable

def toggleFence (s : Converter) : Converter :=
  if s.inFence then { s.emit (.closes .code) with inFence := false }
  else { s.closeBlocks.emit (.opens .code) with inFence := true }

def openTable (s : Converter) : Converter :=
  if s.inTable then s
  else { s.closeParagraph.closeList.closeQuotation with inTable := true }

/-- The first row that is no separator becomes the header. -/
def addRow (s : Converter) (row : Text) : Converter :=
  let s := s.openTable
  if isSeparatorRow row then s
  else if s.header.isNone then { s with header := some row }
  else { s with rows := s.rows ++ [row] }

def addQuote (s : Converter) (rest : Text) : Converter :=
  let s := s.closeParagraph.closeList
  let s := if s.inQuotation then s else { s.emit (.opens .quotation) with inQuotation := true }
  s.emit (.body (renderInline rest ++ [' ']))

def addItem (s : Converter) (kind : ListKind) (rest : Text) : Converter :=
  let s := s.closeParagraph
  let s :=
    if s.list = some kind then s
    else { s.closeList.emit (.opens (.list kind)) with list := some kind }
  s.emit (.body (element ['l', 'i'] (renderInline rest)))

def headingTag (level : Nat) : Text := ['h', level.digitChar]

/-- Takes a line that stands outside a fence. -/
def addLine (s : Converter) (line : Text) : Converter :=
  match Line.ofText line with
  | .row => s.addRow line
  | .quote rest => s.closeTable.addQuote rest
  | .item kind rest => s.closeTable.closeQuotation.addItem kind rest
  | .heading level title =>
    s.closeTable.closeQuotation.closeParagraph.closeList.emit
      (.body (element (headingTag level) (renderInline title)))
  | .rule =>
    s.closeTable.closeQuotation.closeParagraph.closeList.emit (.body "<hr />".toList)
  | .blank => s.closeTable.closeQuotation.closeBlocks
  | .prose =>
    let s := s.closeTable.closeQuotation.closeList
    { s with paragraph := s.paragraph ++ [line.strip] }

/-- Takes one escaped line. Inside a fence a line is output as it is. -/
def feed (s : Converter) (line : Text) : Converter :=
  if isFence line then s.toggleFence
  else if s.inFence then s.emit (.body (escapeKeeping line ++ ['\n']))
  else s.addLine line

/-- White space between two tags, with the brackets around it. -/
def tagGaps : Pattern Unit where
  read? s := do
    let s ← Text.dropPrefix? ['>'] s
    let (_, s) ← Text.run? isBlank s
    let s ← Text.dropPrefix? ['<'] s
    return ((), s)
  shorter := by
    intro s rest a h
    simp only [Option.bind_eq_bind, Option.bind_eq_some_iff, Option.pure_def, Prod.exists] at h
    obtain ⟨t, ht, i, b, hb, r, hr, out⟩ := h
    cases out
    have h₁ := Text.length_of_dropPrefix? ht
    have h₂ := Text.length_of_run? hb
    have h₃ := Text.length_of_dropPrefix? hr
    omega

def closeGaps (html : Text) : Text := tagGaps.replace (fun _ => ['>', '<']) html

def html (s : Converter) : Text := closeGaps (s.emitted.toList.flatMap Emission.html)

/-- Closes whatever is open; what was output stays. -/
def close (s : Converter) : Converter :=
  let s := s.closeBlocks
  if s.inFence then { s.emit (.closes .code) with inFence := false } else s

/-- The document of everything taken so far, with open blocks closed. -/
def finish (s : Converter) : Text := s.close.html

end Converter

def convert (s : Text) : Text := ((lines (escape s)).foldl Converter.feed .start).finish

end Folio.Markup
