import Folio.Document.Format
import Folio.Failure
import Folio.Settings.EnvFile
import Folio.Text.LetterCase

/-! Settings from the environment and an optional file of variables. -/
namespace Folio

open Document (Format)
open Storage (Path)

structure Settings where
  logLevel : Text
  libraryPath : Path
  defaultFormat : Format
  fileLogs : Bool

namespace Settings

def logLevels : List Text :=
  ["DEBUG", "INFO", "WARNING", "ERROR", "CRITICAL"].map String.toList

def affirmations : List Text := ["1", "true", "yes", "on"].map String.toList

inductive Problem
  | unknownLogLevel (level : Text)
  | unknownFormat (name : Text)

def Problem.report : Problem → Report
  | .unknownLogLevel level =>
    ⟨.configuration, "Invalid TEMPLATIMATOR_LOG_LEVEL: ".toList ++ level,
      [("allowed".toList, .seq (logLevels.map .text))]⟩
  | .unknownFormat name =>
    ⟨.configuration, "Invalid TEMPLATIMATOR_DEFAULT_FORMAT: ".toList ++ name,
      [("allowed".toList,
        .seq (((Format.all.map Format.name).mergeSort Text.le).map .text))]⟩

/-- The home directories that the system knows: of the account that the program runs under, and of
others by name. -/
structure Accounts where
  own : Option Text
  named : Text → Option Text

/-- The home directory of a user; without a name, the one that the environment gives, and failing
that the one of the account. -/
def homeOf (accounts : Accounts) (env : Environment) (user : Text) : Option Text :=
  let home :=
    if user = [] then (env.get? "HOME".toList).or accounts.own else accounts.named user
  home.map fun home => match Text.dropEndWhile (· == '/') home with
    | [] => ['/']
    | home => home

/-- Replaces a tilde at the start of a path, with or without a name, by a home directory. -/
def expandHome (accounts : Accounts) (env : Environment) (p : Path) : Except Failure Path :=
  match p.anchor, p.parts with
  | .here, ('~' :: user) :: rest =>
    match homeOf accounts env user with
    | none => .error .homeUnknown
    | some ('~' :: _) => .error .homeUnknown
    | some home =>
      let home := Path.ofText home
      .ok { home with parts := home.parts ++ rest }
  | _, _ => .ok p

def defaultLibrary (accounts : Accounts) (env : Environment) : Except Failure Text :=
  (expandHome accounts env (Path.ofText ['~'])).map fun home =>
    ({ home with
        parts := home.parts ++ [".templatimator".toList, "library.json".toList] } : Path).toText

/-- Reads the settings. The variables of the file, if there is one, take precedence. -/
def load (accounts : Accounts) (env : Environment) (envFile : Option Text) :
    Except Failure Settings := do
  let library ← defaultLibrary accounts env
  let env := match envFile with
    | some document => EnvFile.apply env document
    | none => env
  let setting (name : String) (otherwise : Text) := (env.get? name.toList).getD otherwise
  let level := (setting "TEMPLATIMATOR_LOG_LEVEL" "INFO".toList).upper
  let path ← expandHome accounts env (Path.ofText (setting "TEMPLATIMATOR_LIBRARY_PATH" library))
  let format := (setting "TEMPLATIMATOR_DEFAULT_FORMAT" "html".toList).lower
  let flag := Text.lower (Text.strip (setting "DISABLE_FILE_LOGS" []))
  if !logLevels.contains level then
    throw (.report (Problem.unknownLogLevel level).report)
  match Format.ofName? format with
  | none => throw (.report (Problem.unknownFormat format).report)
  | some known => return ⟨level, path, known, !affirmations.contains flag⟩

end Settings

end Folio
