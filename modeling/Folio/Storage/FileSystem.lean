import Folio.Storage.Path
import Folio.Text.Quoted
import Folio.Text.Utf8

/-! A tree of files and directories, and what reading, writing and making directories do to it.

The tree is an ideal one. No entry is a link, and the current directory is not reached from the root,
so that no relative path leads to where an absolute one leads. Names are not limited in length and
hold no null character. Every file may be read and written, a write that has begun comes to its end,
and nothing else changes the tree meanwhile. -/
namespace Folio.Storage

open Text.Utf8 (Bytes)

inductive Entry
  | file (bytes : Bytes)
  | directory
  deriving DecidableEq, Repr

/-- The names from the current directory to an entry. A place outside it starts with a slash, or
with two dots for each directory upwards. -/
abbrev Location := List Text

structure FileSystem where
  entries : List (Location × Entry)

inductive Refusal
  | missing
  | exists
  | notDirectory
  | isDirectory
  deriving DecidableEq, Repr

/-- Why an operation on a path was refused. -/
structure FileError where
  refusal : Refusal
  path : Path
  deriving DecidableEq, Repr

def Refusal.message : Refusal → Text
  | .missing => "[Errno 2] No such file or directory".toList
  | .exists => "[Errno 17] File exists".toList
  | .notDirectory => "[Errno 20] Not a directory".toList
  | .isDirectory => "[Errno 21] Is a directory".toList

def FileError.message (e : FileError) : Text :=
  e.refusal.message ++ [':', ' '] ++ e.path.toText.quoted

/-- What stands in the way of a file: a refusal, or more calls inside one another than the stack has
room for. -/
inductive Obstacle
  | refused (e : FileError)
  | exhausted
  deriving DecidableEq, Repr

namespace FileSystem

def upwards : Text := ['.', '.']

/-- The current directory, the root and the directories above are always there. -/
def isBase (l : Location) : Bool := l == [['/']] || l.all (· == upwards)

def get? (fs : FileSystem) (l : Location) : Option Entry :=
  if isBase l then some .directory else fs.entries.lookup l

def put (fs : FileSystem) (l : Location) (e : Entry) : FileSystem :=
  ⟨(l, e) :: fs.entries.filter fun entry => entry.1 ≠ l⟩

def enter (l : Location) (part : Text) : Location :=
  if part ≠ upwards then l ++ [part]
  else if l = [['/']] then l
  else if l.all (· == upwards) then l ++ [upwards]
  else l.dropLast

/-- Every place on the way along a path, the first and the last one included. -/
def places (l : Location) : List Text → List Location
  | [] => [l]
  | part :: parts => l :: places (enter l part) parts

/-- The place that a path leads to. Every place before the last must be a directory. -/
def walk (fs : FileSystem) (l : Location) : List Text → Except Refusal Location
  | [] => .ok l
  | part :: parts =>
    match fs.get? l with
    | none => .error .missing
    | some (.file _) => .error .notDirectory
    | some .directory => walk fs (enter l part) parts

def base (p : Path) : Location := if p.anchor = .here then [] else [['/']]

def locate (fs : FileSystem) (p : Path) : Except Refusal Location := fs.walk (base p) p.parts

def find (fs : FileSystem) (p : Path) : Except Refusal Entry :=
  match fs.locate p with
  | .error r => .error r
  | .ok l => match fs.get? l with
    | none => .error .missing
    | some e => .ok e

/-- The entries of a second file system that are new or differ, oldest first. -/
def changes (before after : FileSystem) : List (Location × Entry) :=
  after.entries.reverse.filter fun (l, e) => before.get? l ≠ some e

def contains (fs : FileSystem) (p : Path) : Bool := (fs.find p).isOk

def isDirectory (fs : FileSystem) (p : Path) : Bool :=
  match fs.find p with
  | .ok .directory => true
  | _ => false

def read (fs : FileSystem) (p : Path) : Except FileError Bytes :=
  match fs.find p with
  | .error r => .error ⟨r, p⟩
  | .ok .directory => .error ⟨.isDirectory, p⟩
  | .ok (.file bytes) => .ok bytes

/-- Sets the content of a file, which need not be there before. -/
def write (fs : FileSystem) (p : Path) (bytes : Bytes) : Except FileError FileSystem :=
  match fs.locate p with
  | .error r => .error ⟨r, p⟩
  | .ok l => match fs.get? l with
    | some .directory => .error ⟨.isDirectory, p⟩
    | _ => .ok (fs.put l (.file bytes))

/-- Makes one directory where nothing is. -/
def makeNew (fs : FileSystem) (p : Path) : Except Refusal FileSystem :=
  match fs.locate p with
  | .error r => .error r
  | .ok l => match fs.get? l with
    | some _ => .error .exists
    | none => .ok (fs.put l .directory)

def makeOne (fs : FileSystem) (p : Path) : Except FileError FileSystem :=
  match fs.makeNew p with
  | .ok fs => .ok fs
  | .error r => if fs.isDirectory p then .ok fs else .error ⟨r, p⟩

/-- Makes a directory after those above it that are missing. The parts come last first; what was
made stays when a later step is refused. Each missing directory takes one more call inside the
others, for which the stack may have no room. -/
def makeUpTo (anchor : Anchor) :
    Nat → List Text → FileSystem → FileSystem × Except Obstacle Unit
  | _, [], fs =>
    match fs.makeOne ⟨anchor, []⟩ with
    | .ok fs => (fs, .ok ())
    | .error e => (fs, .error (.refused e))
  | room, part :: parts, fs =>
    let p : Path := ⟨anchor, (part :: parts).reverse⟩
    match fs.makeNew p with
    | .ok fs => (fs, .ok ())
    | .error .missing =>
      match room with
      | 0 => (fs, .error .exhausted)
      | room + 1 =>
        match makeUpTo anchor room parts fs with
        | (fs, .error o) => (fs, .error o)
        | (fs, .ok ()) =>
          match fs.makeOne p with
          | .ok fs => (fs, .ok ())
          | .error e => (fs, .error (.refused e))
    | .error r => if fs.isDirectory p then (fs, .ok ()) else (fs, .error (.refused ⟨r, p⟩))

def makeDirectories (room : Nat) (fs : FileSystem) (p : Path) :
    FileSystem × Except Obstacle Unit :=
  makeUpTo p.anchor room p.parts.reverse fs

def writeWithParents (room : Nat) (fs : FileSystem) (p : Path) (bytes : Bytes) :
    FileSystem × Except Obstacle Unit :=
  match fs.makeDirectories room p.parent with
  | (fs, .error o) => (fs, .error o)
  | (fs, .ok ()) =>
    match fs.write p bytes with
    | .ok fs => (fs, .ok ())
    | .error e => (fs, .error (.refused e))

end FileSystem

end Folio.Storage
