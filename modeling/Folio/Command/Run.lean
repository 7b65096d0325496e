import Folio.Command.Arguments
import Folio.Console.Message
import Folio.Document.Files
import Folio.Library.Stored
import Folio.Logging

/-! Runs of the command line over a file system: what is printed, what is written, and how the run
ends. -/
namespace Folio.Command

open Library (Kind Snippet)
open Storage (FileSystem Path)

/-- Where the program runs: the room that the stack has, and the directory for logs. -/
structure Host where
  room : Room
  logs : Path

/-- A run ends with an exit status, or with a failure that nothing handles. -/
structure Result where
  files : FileSystem
  stdout : Text
  stderr : Text
  ending : Except Failure Nat

/-- The text of a source; without one, nothing. A document is made of characters: a snippet with half
of a surrogate pair is refused here, and not only when the document is written. -/
def readSource (fs : FileSystem) (path : Path) (library : Library) (kind : Kind) :
    Option Source → Except Failure Text
  | none => .ok []
  | some (.file p) => Storage.readText fs p
  | some (.named name) =>
    match library.get kind name.wide with
    | .ok snippet => snippet.content.text.mapError .unencodable
    | .error p => .error (.report (p.report path))

abbrev Done := FileSystem × Except Failure (Text × Nat)

section Commands

variable (host : Host) (console : Console)

def told (fs : FileSystem) (message : Message) : Done := (fs, (console.out message).map (·, 0))

def renderCommand (fs : FileSystem) (path : Path) (library : Library) (r : Rendering) : Done :=
  let texts : Except Failure (Text × Text × Text) := do
    let template ← readSource fs path library .template (some r.template)
    let data ← readSource fs path library .data r.data
    let style ← readSource fs path library .style r.style
    return (template, data, style)
  match texts with
  | .error f => (fs, .error f)
  | .ok (template, data, style) =>
    let composition :=
      Document.composeAs host.room.nesting r.format template data style r.markup
    let content := if r.display then composition.display else composition.exported
    match r.output with
    | none => told console fs (.document content)
    | some output =>
      let (fs, written) := Document.writeOutput host.room fs content output
      (fs, written.map fun done => ([], if done then 0 else 1))

def row (kind : Kind) (snippet : Snippet) : SnippetRow :=
  ⟨kind, snippet.name, snippet.content.length, snippet.content.strip.firstLine⟩

def rows (library : Library) (kind : Option Kind) : List SnippetRow :=
  let kinds := match kind with
    | some kind => [kind]
    | none => Kind.all
  kinds.flatMap fun kind => (library.entries kind).map (row kind)

def flushed (fs : FileSystem) (path : Path) (library : Library) (message : Message) : Done :=
  match library.flush host.room fs path with
  | (fs, .ok ()) => told console fs message
  | (fs, .error f) => (fs, .error f)

def saveCommand (fs : FileSystem) (path : Path) (library : Library) (kind : Kind) (name : Text)
    (content : Path) : Done :=
  match Storage.readText fs content with
  | .error f => (fs, .error f)
  | .ok content =>
    match library.save kind name.wide content.wide with
    | .error p => (fs, .error (.report (p.report path)))
    | .ok (library, snippet) => flushed host console fs path library (.saved kind snippet.name)

def deleteCommand (fs : FileSystem) (path : Path) (library : Library) (kind : Kind) (name : Text) :
    Done :=
  match library.delete kind name.wide with
  | .error p => (fs, .error (.report (p.report path)))
  | .ok library => flushed host console fs path library (.deleted kind name.wide)

def perform (fs : FileSystem) (i : Invocation) : Done :=
  match Library.load host.room fs i.library .empty with
  | (_, .error f) => (fs, .error f)
  | (library, .ok ()) =>
    match i.action with
    | .render r => renderCommand host console fs i.library library r
    | .list kind => told console fs (.snippets (rows library kind))
    | .save kind name path => saveCommand host console fs i.library library kind name path
    | .delete kind name => deleteCommand host console fs i.library library kind name

end Commands

/-- What a user is told of a failure: mistakes on a line, other reports in a panel, and refusals of
the system on a line. Failures of other kinds are not handled. -/
def explain : Failure → Option Message
  | .report r =>
    some (if r.kind = .userInput then .mistake r.message else .panel r.kind.code r.message)
  | .file e => some (.refusal e.message)
  | .stream message => some (.refusal message)
  | _ => none

def complain (console : Console) (fs : FileSystem) (message : Message) : Result :=
  match console.err message with
  | .ok said => ⟨fs, [], said, .ok 1⟩
  | .error f => ⟨fs, [], [], .error f⟩

def conclude (console : Console) : Done → Result
  | (fs, .ok (said, status)) => ⟨fs, said, [], .ok status⟩
  | (fs, .error f) =>
    match explain f with
    | some message => complain console fs message
    | none => ⟨fs, [], [], .error f⟩

/-- The paths of all files that a run may read or write. -/
def involved (host : Host) (configured : Except Failure Settings) (words : List Text) :
    List Path :=
  match configured.map fun settings => (parse settings words).toOption with
  | .ok (some i) => Logging.logFile host.logs :: i.library :: i.action.paths
  | _ => []

def run (host : Host) (console : Console) (configured : Except Failure Settings)
    (fs : FileSystem) (words : List Text) : Result :=
  match configured with
  | .error (.report r) => complain console fs (.panel "Configuration error".toList r.line)
  | .error f => ⟨fs, [], [], .error f⟩
  | .ok settings =>
    match parse settings words with
    | .error .help => ⟨fs, [], [], .ok 0⟩
    | .error .usage => ⟨fs, [], [], .ok 2⟩
    | .ok i =>
      let opened := (Logging.configure host.logs fs settings.fileLogs).1
      conclude console (perform host console opened i)

end Folio.Command
