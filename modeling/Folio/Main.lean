import Folio.Command.Run
import Folio.Console.Print

/-! The program: takes the files that a command line names into a file system value, runs the
command on it, and stores what has changed. -/
namespace Folio.Main

open Storage (FileSystem Location Entry Path)

def spell (l : Location) : String :=
  String.ofList <| match l with
    | [] => ['.']
    | ['/'] :: parts => '/' :: Text.join ['/'] parts
    | parts => Text.join ['/'] parts

/-- What an opened file holds. A directory can be opened but not read. -/
def readOpened (handle : IO.FS.Handle) : IO Entry := do
  try
    let bytes ← handle.readBinToEnd
    return .file bytes.toList
  catch _ => return .directory

/-- The entry at a place, if something can be opened there. -/
def readEntry (l : Location) : IO (Option Entry) := do
  try
    let handle ← IO.FS.Handle.mk (spell l) .read
    return some (← readOpened handle)
  catch _ => return none

def takeFiles (places : List Location) : IO FileSystem :=
  places.eraseDups.foldlM (fun fs l => do
    match ← readEntry l with
    | some e => return fs.put l e
    | none => return fs) ⟨[]⟩

def storeEntry (l : Location) : Entry → IO Unit
  | .directory => IO.FS.createDir (spell l)
  | .file bytes => IO.FS.writeBinFile (spell l) ⟨bytes.toArray⟩

def readEnvFile : IO (Except Failure (Option Text)) := do
  match ← readEntry [".env".toList] with
  | some (.file bytes) =>
    return match Text.Utf8.decode bytes with
      | .ok s => .ok (some s.universalNewlines)
      | .error fault => .error (.undecodable fault)
  | _ => return .ok none

def settingNames : List Text :=
  ["HOME", "TEMPLATIMATOR_LOG_LEVEL", "TEMPLATIMATOR_LIBRARY_PATH", "TEMPLATIMATOR_DEFAULT_FORMAT",
    "DISABLE_FILE_LOGS"].map String.toList

def takeEnvironment (names : List Text) : IO Settings.Environment :=
  names.eraseDups.filterMapM fun name => do
    return (← IO.getEnv (String.ofList name)).map fun value => (name, value.toList)

/-- The room that the stack usually has, and the directory for logs beside the program. -/
def host : Command.Host := ⟨⟨990, 985, by decide⟩, Path.ofText "logs".toList⟩

/-- No home directory is known but the one in the environment. -/
def accounts : Settings.Accounts := ⟨none, fun _ => none⟩

def run (words : List Text) : IO UInt32 := do
  let out ← IO.getStdout
  let err ← IO.getStderr
  match ← readEnvFile with
  | .error f =>
    err.putStrLn (String.ofList f.message)
    return 1
  | .ok envFile =>
    let env ← takeEnvironment (settingNames ++ Settings.EnvFile.references (envFile.getD []))
    let configured := Settings.load accounts env envFile
    let paths := Command.involved host configured words
    let files ← takeFiles (paths.flatMap fun p => FileSystem.places (FileSystem.base p) p.parts)
    let result := Command.run host .plain configured files words
    for (l, e) in files.changes result.files do
      storeEntry l e
    out.putStr (String.ofList result.stdout)
    err.putStr (String.ofList result.stderr)
    match result.ending with
    | .ok status => return status.toUInt32
    | .error f =>
      err.putStrLn (String.ofList f.message)
      return 1

end Folio.Main

def main (args : List String) : IO UInt32 := Folio.Main.run (args.map String.toList)
