import Folio.Failure
import Folio.Json.Read
import Folio.Json.Write
import Folio.Library.Basic

/-! The file of a library: an object with a list of named texts for each kind. -/
namespace Folio.Library

open Json (WideValue)
open Storage (FileSystem Path)

abbrev WideFields := Members WideText

def Snippet.ofValue? : WideValue → Option Snippet
  | .map fields =>
    match Members.get? (Text.wide "name".toList) fields,
      Members.get? (Text.wide "content".toList) fields with
    | some (.text name), some (.text content) => some ⟨name, content⟩
    | _, _ => none
  | _ => none

def readSnippets (kind : Kind) : List WideValue → Except Problem (List Snippet)
  | [] => .ok []
  | entry :: rest =>
    match Snippet.ofValue? entry with
    | none => .error (.badEntry kind entry)
    | some snippet => (readSnippets kind rest).map (snippet :: ·)

def readKind (object : WideFields) (kind : Kind) : Except Problem (List Snippet) :=
  match object.get? kind.name.wide with
  | none => .ok []
  | some (.seq items) => readSnippets kind items
  | some _ => .error (.noList kind)

/-- Takes over the kinds of a library file one after the other; a kind without snippets gets the
defaults. The first kind that cannot be read ends the work, and the ones before it stay. -/
def fill (object : WideFields) : List Kind → Library → Library × Except Problem Unit
  | [], l => (l, .ok ())
  | kind :: kinds, l =>
    match readKind object kind with
    | .error p => (l, .error p)
    | .ok [] => fill object kinds (l.withEntries kind (defaults kind))
    | .ok snippets => fill object kinds (l.withEntries kind snippets)

/-- The object in the text of a library file; a blank text is an empty object. -/
def readObject (room : Room) (path : Path) (document : Text) : Except Failure WideFields :=
  if Text.allBlank document then .ok []
  else match Json.read room.nesting document with
    | .ok (.map fields) => .ok fields
    | .ok _ => .error (.report (Problem.noObject.report path))
    | .error (.breach b remaining) =>
      .error (.report ((Problem.malformed b document remaining).report path))
    | .error (.integerTooLong n) => .error (.integerTooLong n)
    | .error (.tooDeep insideArray) => .error (.tooDeep insideArray)

/-- The object at a path; where nothing is, an empty one. -/
def readFile (room : Room) (fs : FileSystem) (path : Path) : Except Failure WideFields :=
  if fs.contains path then
    match Storage.readText fs path with
    | .ok document => readObject room path document
    | .error (.file e) => .error (.report ((Problem.unreadable e).report path))
    | .error f => .error f
  else .ok []

def load (room : Room) (fs : FileSystem) (path : Path) (l : Library) :
    Library × Except Failure Unit :=
  match readFile room fs path with
  | .error f => (l, .error f)
  | .ok object =>
    match fill object Kind.all l with
    | (l, .ok ()) => (l, .ok ())
    | (l, .error p) => (l, .error (.report (p.report path)))

def Snippet.write (snippet : Snippet) : WideText :=
  Json.writeBlock '{' '}' 2 [
    Json.writeMember "name".toList (Json.writeString snippet.name),
    Json.writeMember "content".toList (Json.writeString snippet.content)]

def write (l : Library) : WideText :=
  Json.writeBlock '{' '}' 0 (Kind.all.map fun kind =>
    Json.writeMember kind.name (Json.writeBlock '[' ']' 1 ((l.entries kind).map Snippet.write)))

/-- Of what stands in the way of a library only refusals are reported. -/
def unwritten (path : Path) : Storage.Obstacle → Failure
  | .refused e => .report ((Problem.unwritable e).report path)
  | .exhausted => .exhausted

/-- Writes a library to a path. No bytes stand for half of a surrogate pair, which is found only when
the file has been opened and is empty. -/
def flush (room : Room) (fs : FileSystem) (path : Path) (l : Library) :
    FileSystem × Except Failure Unit :=
  let encoded := l.write.encode
  match fs.writeWithParents room.directories path (encoded.toOption.getD []) with
  | (fs, .error o) => (fs, .error (unwritten path o))
  | (fs, .ok ()) =>
    match encoded with
    | .ok _ => (fs, .ok ())
    | .error fault => (fs, .error (.unencodable fault))

end Folio.Library
