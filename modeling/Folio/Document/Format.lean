import Folio.Report
import Folio.Value.Display

/-! The formats in which a document can be written. -/
namespace Folio.Document

inductive Format
  | html
  | pdf
  | markdown
  | csv
  | txt
  deriving DecidableEq, Repr

namespace Format

def all : List Format := [.html, .pdf, .markdown, .csv, .txt]

def name : Format → Text
  | .html => "html".toList
  | .pdf => "pdf".toList
  | .markdown => "markdown".toList
  | .csv => "csv".toList
  | .txt => "txt".toList

def ofName? (s : Text) : Option Format := all.find? fun format => format.name = s

/-- Whether documents of the format are fragments of HTML; the others are plain text. -/
def isHtml : Format → Bool
  | .html => true
  | .pdf => true
  | _ => false

def mimeType : Format → Text
  | .html => "text/html".toList
  | .pdf => "text/html".toList
  | .markdown => "text/markdown".toList
  | .csv => "text/csv".toList
  | .txt => "text/plain".toList

/-- The ending of the name of a file that holds such a document. -/
def extension : Format → Text
  | .html => "html".toList
  | .pdf => "html".toList
  | .markdown => "md".toList
  | .csv => "csv".toList
  | .txt => "txt".toList

/-- A value that names no format. -/
structure Unknown where
  value : Value

def Unknown.report (u : Unknown) : Report :=
  ⟨.userInput, "Unknown output format: ".toList ++ u.value.diagnostic Text.quoted,
    [("allowed".toList, .seq (all.map fun format => .text format.name))]⟩

def ofValue (value : Value) : Except Unknown Format :=
  let known := match value with
    | .text s => ofName? s
    | _ => none
  match known with
  | some format => .ok format
  | none => .error ⟨value⟩

end Format

end Folio.Document
