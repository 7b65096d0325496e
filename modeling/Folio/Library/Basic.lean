import Folio.Library.Snippet
import Folio.Report
import Folio.Storage.FileSystem
import Folio.Json.Scan
import Folio.Text.Blank
import Folio.Text.LetterCase
import Folio.Value.Display

/-! A library of snippets: for each kind a list of them in the order in which they were added. -/
namespace Folio

structure Library where
  templates : List Library.Snippet
  data : List Library.Snippet
  styles : List Library.Snippet
  deriving DecidableEq, Repr

namespace Library

/-- What a user did wrong, or what is wrong with the file of a library. -/
inductive Problem
  | nameRequired (kind : Kind)
  | unknownName (kind : Kind) (name : WideText) (available : List WideText)
  | unreadable (e : Storage.FileError)
  | unwritable (e : Storage.FileError)
  | malformed (b : Json.Breach) (document : Text) (remaining : Nat)
  | noObject
  | noList (kind : Kind)
  | badEntry (kind : Kind) (entry : Json.WideValue)

/-- A malformed entry is shown up to this length. -/
def entryPreview : Nat := 80

def Problem.report (path : Storage.Path) (p : Problem) : Report :=
  let place : Fields := [("path".toList, .text path.toText)]
  match p with
  | .nameRequired kind =>
    ⟨.userInput, Text.capitalize kind.name ++ " name required".toList, []⟩
  | .unknownName kind name available =>
    ⟨.userInput, "No ".toList ++ kind.name ++ " named ".toList ++ name.quoted,
      [("available".toList, .seq (available.map fun name => .text name.replaced))]⟩
  | .unreadable e => ⟨.storage, "Cannot read library: ".toList ++ e.message, place⟩
  | .unwritable e => ⟨.storage, "Cannot write library: ".toList ++ e.message, place⟩
  | .malformed b document remaining =>
    ⟨.dataValidation,
      "Library file is not valid JSON: ".toList ++ b.report document remaining, place⟩
  | .noObject => ⟨.dataValidation, "Library file must contain a JSON object".toList, place⟩
  | .noList kind =>
    ⟨.dataValidation, "Library entry '".toList ++ kind.name ++ "' must be a list".toList, place⟩
  | .badEntry kind entry =>
    ⟨.dataValidation, "Malformed '".toList ++ kind.name ++ "' entry in library".toList,
      place ++ [("entry".toList, .text ((entry.diagnostic WideText.quoted).take entryPreview))]⟩

def empty : Library := ⟨[], [], []⟩

def entries (l : Library) : Kind → List Snippet
  | .template => l.templates
  | .data => l.data
  | .style => l.styles

def withEntries (l : Library) (kind : Kind) (snippets : List Snippet) : Library :=
  match kind with
  | .template => { l with templates := snippets }
  | .data => { l with data := snippets }
  | .style => { l with styles := snippets }

@[simp] theorem entries_withEntries_self (l : Library) (kind : Kind) (snippets : List Snippet) :
    (l.withEntries kind snippets).entries kind = snippets := by
  cases kind <;> rfl

theorem entries_withEntries_of_ne (l : Library) {kind other : Kind} (distinct : other ≠ kind)
    (snippets : List Snippet) : (l.withEntries kind snippets).entries other = l.entries other := by
  cases kind <;> cases other <;> first | rfl | exact absurd rfl distinct

def get (l : Library) (kind : Kind) (name : WideText) : Except Problem Snippet :=
  match (l.entries kind).find? fun snippet => snippet.name = name with
  | some snippet => .ok snippet
  | none => .error (.unknownName kind name ((l.entries kind).map Snippet.name))

/-- Replaces the first snippet of the same name, or adds the snippet at the end. -/
def place (new : Snippet) : List Snippet → List Snippet
  | [] => [new]
  | old :: rest => if old.name = new.name then new :: rest else old :: place new rest

/-- Stores a content under a name without white space at its ends. -/
def save (l : Library) (kind : Kind) (name content : WideText) :
    Except Problem (Library × Snippet) :=
  match name.strip with
  | [] => .error (.nameRequired kind)
  | name =>
    let new : Snippet := ⟨name, content⟩
    .ok (l.withEntries kind (place new (l.entries kind)), new)

def delete (l : Library) (kind : Kind) (name : WideText) : Except Problem Library :=
  match l.get kind name with
  | .error p => .error p
  | .ok _ =>
    .ok (l.withEntries kind ((l.entries kind).eraseP fun snippet => snippet.name = name))

end Library

end Folio
