import Folio.Command.Token
import Folio.Document.Format
import Folio.Library.Snippet
import Folio.Settings.Basic

/-! The command line: options for every command, then a command with options and operands of its
own. -/
namespace Folio.Command

open Document (Format)
open Library (Kind)
open Storage (Path)

/-- A text is taken from a file, or from the library by name. -/
inductive Source
  | file (path : Path)
  | named (name : Text)
  deriving DecidableEq, Repr

structure Rendering where
  template : Source
  data : Option Source
  style : Option Source
  format : Format
  output : Option Path
  markup : Option Bool
  display : Bool

inductive Action
  | render (r : Rendering)
  | list (kind : Option Kind)
  | save (kind : Kind) (name : Text) (path : Path)
  | delete (kind : Kind) (name : Text)

structure Invocation where
  logLevel : Text
  library : Path
  action : Action

def Source.paths : Source → List Path
  | .file path => [path]
  | .named _ => []

/-- The paths of the files that an action takes or writes, the library not counted. -/
def Action.paths : Action → List Path
  | .render r =>
    r.template.paths ++ (r.data.toList ++ r.style.toList).flatMap Source.paths ++ r.output.toList
  | .list _ => []
  | .save _ _ path => [path]
  | .delete _ _ => []

/-- An operand of a command: how it changes the state. -/
abbrev Operand (σ : Type) := Text → σ → Except Stop σ

/-- What a command line has come to: the state, and whether something was left over. -/
structure Outcome (σ : Type) where
  state : σ
  leftOver : Bool

/-- Takes the words of a command one after the other. A separator is left over where a command has
no operands at all. -/
def take {σ : Type} (hasOperands : Bool) (o : Outcome σ) (operands : List (Operand σ)) :
    List (Text × Token σ) → Except Stop (Outcome σ × List (Operand σ))
  | [] => .ok (o, operands)
  | (_, .word s) :: rest =>
    match operands with
    | [] => take hasOperands { o with leftOver := true } [] rest
    | operand :: operands =>
      match operand s o.state with
      | .error stop => .error stop
      | .ok state => take hasOperands { o with state } operands rest
  | (_, .separator) :: rest =>
    take hasOperands { o with leftOver := o.leftOver || !hasOperands } operands rest
  | (_, .unknown) :: rest => take hasOperands { o with leftOver := true } operands rest
  | (_, .option .help attachment) :: _ => .error (helpWith attachment)
  | (_, .option (.flag set) attachment) :: rest =>
    if attachment = .none then take hasOperands { o with state := set o.state } operands rest
    else .error .usage
  | (_, .option (.value set) (.assigned s)) :: rest =>
    match set s o.state with
    | .error stop => .error stop
    | .ok state => take hasOperands { o with state } operands rest
  | (_, .option (.value set) _) :: (_, .word s) :: rest =>
    match set s o.state with
    | .error stop => .error stop
    | .ok state => take hasOperands { o with state } operands rest
  | (_, .option (.value _) _) :: _ => .error .usage

def helpOptions {σ : Type} : Options σ := [(['-', 'h'], .help), ("--help".toList, .help)]

/-- Reads the options and operands of one command; nothing may be left over, and no more than the
given number of operands may be missing. -/
def takeAll {σ : Type} (options : Options σ) (operands : List (Operand σ)) (optional : Nat)
    (start : σ) (words : List Text) : Except Stop (Outcome σ) := do
  let words ← tokens (helpOptions ++ options) words
  let (o, missing) ← take (!operands.isEmpty) ⟨start, false⟩ operands words
  if missing.length ≤ optional then return o else throw .usage

/-- The options of the render command before all of them are known. -/
structure Draft where
  template : Option Source
  data : Option Source
  style : Option Source
  format : Format
  output : Option Path
  markup : Option Bool
  display : Bool

/-- A file and a name cannot both be given for one text; of two of a kind the last counts. -/
def choose (new : Source) : Option Source → Except Stop (Option Source)
  | none => .ok (some new)
  | some old =>
    match new, old with
    | .file _, .file _ => .ok (some new)
    | .named _, .named _ => .ok (some new)
    | _, _ => .error .usage

def fileSource (s : Text) : Source := .file (Path.ofText s)

def renderOptions : Options Draft :=
  [("--template", .value fun s d =>
      (choose (fileSource s) d.template).map fun template => { d with template }),
    ("--template-name", .value fun s d =>
      (choose (.named s) d.template).map fun template => { d with template }),
    ("--data", .value fun s d => (choose (fileSource s) d.data).map fun data => { d with data }),
    ("--data-name", .value fun s d => (choose (.named s) d.data).map fun data => { d with data }),
    ("--style", .value fun s d =>
      (choose (fileSource s) d.style).map fun style => { d with style }),
    ("--style-name", .value fun s d =>
      (choose (.named s) d.style).map fun style => { d with style }),
    ("--format", .value fun s d => match Format.ofName? s with
      | some format => .ok { d with format }
      | none => .error .usage),
    ("--output", .value fun s d => .ok { d with output := some (Path.ofText s) }),
    ("--markup", .flag fun d => { d with markup := some true }),
    ("--no-markup", .flag fun d => { d with markup := some false }),
    ("--display", .flag fun d => { d with display := true })].map
  fun (name, effect) => (name.toList, effect)

def parseRender (settings : Settings) (words : List Text) : Except Stop (Outcome Action) := do
  let start : Draft := ⟨none, none, none, settings.defaultFormat, none, none, false⟩
  let o ← takeAll renderOptions [] 0 start words
  match o.state.template with
  | none => throw .usage
  | some template =>
    let d := o.state
    let rendering : Rendering :=
      ⟨template, d.data, d.style, d.format, d.output, d.markup, d.display⟩
    return ⟨.render rendering, o.leftOver⟩

/-- The operands of the other commands as they come in. -/
structure Operands where
  kind : Option Kind
  name : Text
  path : Path

def takeKind : Operand Operands := fun s o =>
  match Kind.ofName? s with
  | some kind => .ok { o with kind := some kind }
  | none => .error .usage

def takeName : Operand Operands := fun s o => .ok { o with name := s }

def takePath : Operand Operands := fun s o => .ok { o with path := Path.ofText s }

def noOperands : Operands := ⟨none, [], Path.ofText []⟩

def parseList (words : List Text) : Except Stop (Outcome Action) :=
  (takeAll [] [takeKind] 1 noOperands words).map fun o => ⟨.list o.state.kind, o.leftOver⟩

def parseSave (words : List Text) : Except Stop (Outcome Action) := do
  let o ← takeAll [] [takeKind, takeName, takePath] 0 noOperands words
  match o.state.kind with
  | some kind => return ⟨.save kind o.state.name o.state.path, o.leftOver⟩
  | none => throw .usage

def parseDelete (words : List Text) : Except Stop (Outcome Action) := do
  let o ← takeAll [] [takeKind, takeName] 0 noOperands words
  match o.state.kind with
  | some kind => return ⟨.delete kind o.state.name, o.leftOver⟩
  | none => throw .usage

def parseCommand (settings : Settings) (name : Text) (words : List Text) :
    Except Stop (Outcome Action) :=
  if name = "render".toList then parseRender settings words
  else if name = "list".toList then parseList words
  else if name = "save".toList then parseSave words
  else if name = "delete".toList then parseDelete words
  else .error .usage

/-- The options that stand before a command. -/
structure Globals where
  logLevel : Text
  library : Path

def globalOptions : Options Globals :=
  [("--log-level", .value fun s g => .ok { g with logLevel := s }),
    ("--library", .value fun s g => .ok { g with library := Path.ofText s })].map
  fun (name, effect) => (name.toList, effect)

/-- Cuts a command line before its command. An option takes the word behind it along. -/
def beforeCommand : List (Text × Token Globals) →
    List (Text × Token Globals) × List (Text × Token Globals)
  | [] => ([], [])
  | (s, .word w) :: rest => ([], (s, .word w) :: rest)
  | (s, .separator) :: rest => ([], (s, .separator) :: rest)
  | (s, .option (.value set) .none) :: value :: rest =>
    let (before, after) := beforeCommand rest
    ((s, .option (.value set) .none) :: value :: before, after)
  | other :: rest =>
    let (before, after) := beforeCommand rest
    (other :: before, after)

/-- The invocation that a command line stands for. -/
def parse (settings : Settings) (words : List Text) : Except Stop Invocation := do
  let words ← tokens (helpOptions ++ globalOptions) words
  let (before, after) := beforeCommand words
  let start : Outcome Globals := ⟨⟨settings.logLevel, settings.libraryPath⟩, false⟩
  let (globals, _) ← take true start [] before
  match after with
  | (_, .word name) :: rest =>
    let command ← parseCommand settings name (rest.map Prod.fst)
    if globals.leftOver || command.leftOver then throw .usage
    else return ⟨globals.state.logLevel, globals.state.library, command.state⟩
  | _ => throw .usage

end Folio.Command
