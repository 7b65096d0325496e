import Folio.Console.Cell
import Folio.Text.Basic

/-! Lines broken at white space so that they fit into a number of columns. -/
namespace Folio.Console

open Text (isBlank)

/-- A word with the white space behind it; the first one also has the white space before it. The
bound is the length of the text. -/
def wordsUpTo : Nat → Text → List Text
  | 0, _ => []
  | bound + 1, s =>
    let lead := s.takeWhile isBlank
    let body := s.dropWhile isBlank
    let core := body.takeWhile fun c => !isBlank c
    let rest := body.dropWhile fun c => !isBlank c
    if core.isEmpty then []
    else
      (lead ++ core ++ rest.takeWhile isBlank) :: wordsUpTo bound (rest.dropWhile isBlank)

def words (s : Text) : List Text := wordsUpTo s.length s

def chop (columns : Nat) (s : Text) : List Text :=
  let (pieces, last, _) := s.foldl
    (fun (pieces, piece, used) c =>
      if used + charWidth c > columns then (pieces ++ [piece], [c], charWidth c)
      else (pieces, piece ++ [c], used + charWidth c))
    (([], [], 0) : List Text × Text × Nat)
  pieces ++ [last]

structure Filling where
  done : List Text
  line : Text
  used : Nat

namespace Filling

def turn (f : Filling) : Filling :=
  if f.done.isEmpty && f.line.isEmpty then f else ⟨f.done ++ [f.line], [], 0⟩

/-- Sets a word. One that fits on no line is folded over several, or has a line of its own. -/
def add (folds : Bool) (columns : Nat) (f : Filling) (word : Text) : Filling :=
  let size := width word.stripRight
  if f.used + size ≤ columns then ⟨f.done, f.line ++ word, f.used + width word⟩
  else
    let f := f.turn
    if size > columns && folds then
      let pieces := chop columns word
      let last := pieces.getLast?.getD []
      ⟨f.done ++ pieces.dropLast, last, width last⟩
    else ⟨f.done, f.line ++ word, width word⟩

end Filling

/-- A line without the white space at its end that lies beyond the columns. -/
def trimBeyond (columns : Nat) (line : Text) : Text :=
  let blank := (line.reverse.takeWhile isBlank).length
  line.take (line.length - min blank (line.length - columns))

def wrapLine (folds : Bool) (columns : Nat) (line : Text) : List Text :=
  let lines := match words line with
    | [] => [line]
    | words =>
      let f := words.foldl (Filling.add folds columns) ⟨[], [], 0⟩
      f.done ++ [f.line]
  lines.map fun line =>
    let line := trimBeyond columns line
    if folds then (if width line ≤ columns then line else crop columns line)
    else cropWithEllipsis columns line

/-- Breaks every line of a text. With folding no word is shortened. -/
def wrap (folds : Bool) (columns : Nat) (s : Text) : List Text :=
  (Text.splitOn '\n' s).flatMap (wrapLine folds columns)

end Folio.Console
