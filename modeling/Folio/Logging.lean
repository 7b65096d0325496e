import Folio.Storage.FileSystem
import Folio.Text.LetterCase

/-! Where log records go and from which level on. The records themselves are left out: a log file is
followed only as far as it is made and opened. -/
namespace Folio.Logging

open Storage (FileSystem Path)

inductive Handler
  | file
  | console
  deriving DecidableEq, Repr

def levels : List (Text × Nat) :=
  [("NOTSET", 0), ("DEBUG", 10), ("INFO", 20), ("WARN", 30), ("WARNING", 30), ("ERROR", 40),
    ("CRITICAL", 50), ("FATAL", 50)].map fun (name, number) => (name.toList, number)

/-- The number of a level in any letter case; an unknown name counts as the level of information. -/
def levelNumber (name : Text) : Nat := (levels.lookup name.upper).getD 20

def logFile (logs : Path) : Path :=
  { logs with parts := logs.parts ++ ["templatimator.log".toList] }

/-- Opens the log file for appending, and makes it and its directory if they are missing. -/
def openFile (logs : Path) (fs : FileSystem) : FileSystem × Bool :=
  match fs.makeOne logs with
  | .error _ => (fs, false)
  | .ok fs =>
    match fs.find (logFile logs) with
    | .ok (.file _) => (fs, true)
    | .ok .directory => (fs, false)
    | .error _ =>
      match fs.write (logFile logs) [] with
      | .ok fs => (fs, true)
      | .error _ => (fs, false)

/-- The handlers of a run. Where the log file cannot be opened, only the console is left. -/
def configure (logs : Path) (fs : FileSystem) (wantsFile : Bool) : FileSystem × List Handler :=
  if wantsFile then
    match openFile logs fs with
    | (fs, true) => (fs, [.file, .console])
    | (fs, false) => (fs, [.console])
  else (fs, [.console])

end Folio.Logging
