import Folio.Text.Basic

/-! Paths of files: where they start and the names along the way. -/
namespace Folio.Storage

/-- A path starts at the current directory, at the root, or at the root with two slashes. -/
inductive Anchor
  | here
  | root
  | doubleRoot
  deriving DecidableEq, Repr

/-- Parts are never empty and never a single dot; two dots stay as they are. -/
structure Path where
  anchor : Anchor
  parts : List Text
  deriving DecidableEq, Repr

namespace Path

def anchorOf : Text → Anchor
  | '/' :: '/' :: '/' :: _ => .root
  | '/' :: '/' :: _ => .doubleRoot
  | '/' :: _ => .root
  | _ => .here

def ofText (s : Text) : Path :=
  ⟨anchorOf s, (Text.splitOn '/' s).filter fun part => part ≠ [] ∧ part ≠ ['.']⟩

def toText (p : Path) : Text :=
  let way := Text.join ['/'] p.parts
  match p.anchor with
  | .here => if p.parts.isEmpty then ['.'] else way
  | .root => '/' :: way
  | .doubleRoot => '/' :: '/' :: way

/-- The path without its last part; a path without parts is its own parent. -/
def parent (p : Path) : Path := { p with parts := p.parts.dropLast }

def name (p : Path) : Text := p.parts.getLast?.getD []

/-- The name up to its last dot, unless that dot is its first or its last character. -/
def stem (p : Path) : Text :=
  match Text.cutAtLast? '.' p.name with
  | some (before, after) => if before.isEmpty || after.isEmpty then p.name else before
  | none => p.name

def withName (p : Path) (name : Text) : Path := { p with parts := p.parts.dropLast ++ [name] }

end Path

end Folio.Storage
