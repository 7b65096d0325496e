import Folio.Data.Dialect
import Folio.Json.Read

/-! Data text of either form. JSON is told by its first character; what cannot be used as a mapping
counts as no data and leaves a warning. -/
namespace Folio.Data

open Json (WideValue)

def looksLikeJson (document : Text) : Bool :=
  match document.strip with
  | '{' :: _ => true
  | '[' :: _ => true
  | _ => false

inductive Warning
  | malformed (fault : Json.Fault)
  | noObject
  deriving DecidableEq, Repr

/-- Data for documents, which are made of characters: the replacement character stands for a half.
The program keeps the half here and fails when it comes to write the document. -/
def ofJson : WideValue → Value := Tree.mapTexts WideText.replaced

/-- The mapping of a data document, and the warnings on the way to it. JSON is followed a given depth
into its arrays and objects. -/
def readInput (nesting : Nat) (document : Text) : Fields × List Warning :=
  let raw := document.strip
  if raw = [] then ([], [])
  else if looksLikeJson raw then
    match (Json.read nesting raw).map ofJson with
    | .error fault => ([], [.malformed fault])
    | .ok (.map fields) => (fields, [])
    | .ok _ => ([], [.noObject])
  else (readDialect raw, [])

end Folio.Data
