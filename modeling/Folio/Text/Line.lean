import Folio.Text.Basic

/-! Line ends: the one line end of stored text, and the many that separate lines on display. -/
namespace Folio.Text

/-- Carriage returns, alone or before a line feed, become line feeds. -/
def universalNewlines : Text → Text
  | [] => []
  | '\r' :: '\n' :: s => '\n' :: universalNewlines s
  | c :: s => (if c = '\r' then '\n' else c) :: universalNewlines s

def isLineEnd (c : Char) : Bool :=
  let n := c.toNat
  (0x0a ≤ n && n ≤ 0x0d) || (0x1c ≤ n && n ≤ 0x1e) || n == 0x85 || n == 0x2028 || n == 0x2029

def firstLine (s : Text) : Text := s.takeWhile fun c => !isLineEnd c

/-- The line and column, from one, of the place after the given text. -/
def lineColumn (before : Text) : Nat × Nat :=
  before.foldl
    (fun (line, column) c => if c = '\n' then (line + 1, 1) else (line, column + 1)) (1, 1)

end Folio.Text
