import Folio.Document.Compose
import Folio.Failure

/-! Documents from files and into files. -/
namespace Folio.Document

open Storage (FileSystem Path)

/-- Writes a text to a path and tells whether that could be done. Refusals are told; where the stack
has no room, the failure goes through to the caller. -/
def writeOutput (room : Room) (fs : FileSystem) (content : Text) (path : Path) :
    FileSystem × Except Failure Bool :=
  match fs.writeWithParents room.directories path (Text.Utf8.encode content) with
  | (fs, .ok ()) => (fs, .ok true)
  | (fs, .error (.refused _)) => (fs, .ok false)
  | (fs, .error .exhausted) => (fs, .error .exhausted)

def readOptional (fs : FileSystem) : Option Path → Except Failure Text
  | none => .ok []
  | some path => Storage.readText fs path

structure Request where
  template : Path
  data : Option Path
  style : Option Path
  format : Text
  markup : Option Bool

/-- Composes the document of a request. When the program is debugged, it also lists the placeholders
of the template in its log, which has no effect on the document. -/
def composeFiles (room : Room) (fs : FileSystem) (r : Request) : Except Failure Composition := do
  let template ← Storage.readText fs r.template
  let data ← readOptional fs r.data
  let style ← readOptional fs r.style
  match compose room.nesting template data style (.text r.format) r.markup with
  | .ok composition => .ok composition
  | .error u => .error (.report u.report)

def besideTemplate (template : Path) (extension : Text) : Path :=
  template.withName (template.stem ++ ".rendered.".toList ++ extension)

/-- Composes a document and writes its exported form; tells whether both could be done. No failure
to compose goes through to the caller. -/
def exportFiles (room : Room) (fs : FileSystem) (r : Request) (output : Option Path) :
    FileSystem × Except Failure Bool :=
  match composeFiles room fs r with
  | .error _ => (fs, .ok false)
  | .ok composition =>
    let target := output.getD (besideTemplate r.template composition.extension)
    writeOutput room fs composition.exported target

end Folio.Document
