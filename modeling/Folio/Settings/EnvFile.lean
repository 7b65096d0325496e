import Folio.Text.Basic
import Folio.Text.Blank

/-! Files of variables, one `NAME=value` on a line. Values may be quoted and may refer to other
variables; a line that breaks the form has no effect. The program reads such a file by a library, for
which this stands in: no theorem rests on it, as they are about any settings. -/
namespace Folio.Settings

/-- Variables with their values; the first of a name counts. -/
abbrev Environment := List (Text × Text)

namespace Environment

def get? (env : Environment) (name : Text) : Option Text := env.lookup name

def set (env : Environment) (name value : Text) : Environment := (name, value) :: env

end Environment

namespace EnvFile

open Text (isBlank run? dropPrefix?)

/-- A variable and its value; a bare name has none. -/
abbrev Binding := Text × Option Text

def isInlineBlank (c : Char) : Bool := isBlank c && c != '\n'

def skipInline (s : Text) : Text := s.dropWhile isInlineBlank

def skipExport (s : Text) : Text :=
  match dropPrefix? "export".toList s with
  | some rest => match run? isInlineBlank rest with
    | some (_, rest) => rest
    | none => s
  | none => s

/-- A name, plain or in single quotes. A comment takes the place of a name. An error of this and the
following readers is the text at which reading ended. -/
def readName (s : Text) : Except Text (Option Text × Text) :=
  match s with
  | '#' :: _ => .ok (none, s)
  | '\'' :: rest =>
    match run? (· != '\'') rest with
    | some (name, '\'' :: rest) => .ok (some name, rest)
    | _ => .error s
  | _ =>
    match run? (fun c => c != '=' && c != '#' && !isBlank c) s with
    | some (name, rest) => .ok (some name, rest)
    | none => .error s

/-- The text up to a closing quote that no backslash precedes, and the text after it. -/
def closeAtPlain? (quote : Char) : Text → Option (Text × Text)
  | [] => none
  | [c] => if c = quote then some ([], []) else none
  | c :: d :: s =>
    if c = quote then some ([], d :: s)
    else if c = '\\' ∧ d = quote then
      (closeAtPlain? quote s).map fun (t, rest) => (c :: d :: t, rest)
    else (closeAtPlain? quote (d :: s)).map fun (t, rest) => (c :: t, rest)

/-- The text between quotes. If a backslash precedes every further quote, the last quote closes. -/
def readQuoted? (quote : Char) (s : Text) : Option (Text × Text) :=
  (closeAtPlain? quote s).or (Text.cutAtLast? quote s)

def unescape (meaning : Char → Option Char) : Text → Text
  | [] => []
  | [c] => [c]
  | c :: d :: s =>
    match if c = '\\' then meaning d else none with
    | some e => e :: unescape meaning s
    | none => c :: unescape meaning (d :: s)

def singleQuoteEscape : Char → Option Char
  | '\\' => some '\\'
  | '\'' => some '\''
  | _ => none

def doubleQuoteEscape : Char → Option Char
  | '\\' => some '\\'
  | '\'' => some '\''
  | '"' => some '"'
  | 'a' => some '\x07'
  | 'b' => some '\x08'
  | 'f' => some '\x0c'
  | 'n' => some '\n'
  | 'r' => some '\r'
  | 't' => some '\t'
  | 'v' => some '\x0b'
  | _ => none

def beforeComment : Text → Text
  | [] => []
  | c :: s =>
    if isBlank c && (Text.stripLeft s).head? == some '#' then []
    else c :: beforeComment s

def readValue (s : Text) : Except Text (Text × Text) :=
  match s with
  | [] => .ok ([], s)
  | '\n' :: _ => .ok ([], s)
  | '\'' :: rest =>
    match readQuoted? '\'' rest with
    | some (value, rest) => .ok (unescape singleQuoteEscape value, rest)
    | none => .error s
  | '"' :: rest =>
    match readQuoted? '"' rest with
    | some (value, rest) => .ok (unescape doubleQuoteEscape value, rest)
    | none => .error s
  | _ =>
    let line := s.takeWhile (· != '\n')
    .ok ((beforeComment line).stripRight, s.dropWhile (· != '\n'))

def readLineEnd (s : Text) : Except Text (Unit × Text) :=
  let inner := skipInline s
  let rest := if inner.head? = some '#' then inner.dropWhile (· != '\n') else s
  match skipInline rest with
  | [] => .ok ((), [])
  | '\n' :: rest => .ok ((), rest)
  | _ => .error rest

def readBinding (s : Text) : Except Text (Option Binding × Text) := do
  let (name, s) ← readName (skipExport s)
  let (value, s) ← match skipInline s with
    | '=' :: rest => (readValue (skipInline rest)).map fun (value, rest) => (some value, rest)
    | s => .ok (none, s)
  let (_, s) ← readLineEnd s
  return (name.map fun name => (name, value), s)

def afterLine (s : Text) : Text := (s.dropWhile (· != '\n')).drop 1

/-- The bindings of a text in their order. The bound is more than the length of the text. -/
def readBindings : Nat → Text → List Binding
  | 0, _ => []
  | bound + 1, s =>
    match Text.stripLeft s with
    | [] => []
    | s =>
      match readBinding s with
      | .ok (some binding, rest) => binding :: readBindings bound rest
      | .ok (none, rest) => readBindings bound rest
      | .error rest => readBindings bound (afterLine rest)

/-- A reference to a variable, from behind its opening brace: its name, its default, and the text
after it. -/
def readReference? (s : Text) : Option (Text × Text × Text) :=
  let name := s.takeWhile fun c => c != '}' && c != ':'
  match s.dropWhile fun c => c != '}' && c != ':' with
  | '}' :: rest => some (name, [], rest)
  | ':' :: '-' :: tail =>
    match tail.dropWhile (· != '}') with
    | '}' :: rest => some (name, tail.takeWhile (· != '}'), rest)
    | _ => none
  | _ => none

def references : Text → List Text
  | [] => []
  | c :: s =>
    let here := if c = '$' then (dropPrefix? ['\x7b'] s).bind readReference? else none
    (here.map fun (name, _) => name).toList ++ references s

/-- Replaces references to variables by their values. The bound is more than the length of the
text. -/
def expand (env : Environment) : Nat → Text → Text
  | 0, _ => []
  | _ + 1, [] => []
  | bound + 1, '$' :: '{' :: s =>
    match readReference? s with
    | some (name, fallback, rest) => (env.get? name).getD fallback ++ expand env bound rest
    | none => '$' :: expand env bound ('{' :: s)
  | bound + 1, c :: s => c :: expand env bound s

/-- The values of the file, each name once with its last value. A reference sees the variables of
the file above it before those of the environment; a variable without value counts as empty. -/
def resolve (env : Environment) : List Binding → List Binding → List Binding
  | done, [] => done
  | done, (name, value) :: rest =>
    let known : Environment := done.map fun (name, value) => (name, value.getD [])
    let value := value.map fun s => expand (known ++ env) (s.length + 1) s
    resolve env ((name, value) :: done.filter (fun binding => binding.1 ≠ name)) rest

def apply (env : Environment) (document : Text) : Environment :=
  (resolve env [] (readBindings (document.length + 1) document)).foldl
    (fun env (name, value) => match value with
      | some value => env.set name value
      | none => env) env

end EnvFile

end Folio.Settings
