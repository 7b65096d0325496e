import Folio.Text.Blank
import Folio.Text.Class
import Folio.Text.Line
import Folio.Text.Table.Width

/-! Columns of a console: how many a text takes, and texts cut or filled to a number of them. -/
namespace Folio.Console

def charWidth (c : Char) : Nat :=
  if c.toNat < 0x300 then 1
  else if Text.CodeRange.contains Text.Table.zeroWidth c.toNat then 0
  else if Text.CodeRange.contains Text.Table.doubleWidth c.toNat then 2
  else 1

def width (s : Text) : Nat := s.foldl (fun n c => n + charWidth c) 0

def widest (s : Text) : Nat :=
  let (most, last) := s.foldl
    (fun (most, last) c =>
      if Text.isLineEnd c then (max most last, 0) else (most, last + charWidth c)) (0, 0)
  max most last

def blanks (n : Nat) : Text := List.replicate n ' '

def padRight (columns : Nat) (s : Text) : Text := s ++ blanks (columns - width s)

def padLeft (columns : Nat) (s : Text) : Text := blanks (columns - width s) ++ s

/-- The text in the middle of a filling; an odd column goes to the right. -/
def center (filling : Char) (columns : Nat) (s : Text) : Text :=
  let free := columns - width s
  List.replicate (free / 2) filling ++ s ++ List.replicate (free - free / 2) filling

/-- The text up to a number of columns. A character of two columns that is cut becomes a blank. -/
def crop : Nat → Text → Text
  | _, [] => []
  | columns, c :: s =>
    if charWidth c ≤ columns then c :: crop (columns - charWidth c) s
    else blanks columns

def cropWithEllipsis (columns : Nat) (s : Text) : Text :=
  if width s ≤ columns then s else crop (columns - 1) s ++ ['…']

end Folio.Console
