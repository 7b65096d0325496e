import Folio.Text.Basic

/-! White space: the characters between words, and the removal of white space at the ends. -/
namespace Folio.Text

/-- White space, line ends and the information separators included. -/
def isBlank (c : Char) : Bool :=
  let n := c.toNat
  (0x09 ≤ n && n ≤ 0x0d) || (0x1c ≤ n && n ≤ 0x20) || n == 0x85 || n == 0xa0 || n == 0x1680 ||
    (0x2000 ≤ n && n ≤ 0x200a) || n == 0x2028 || n == 0x2029 || n == 0x202f || n == 0x205f ||
    n == 0x3000

def allBlank (s : Text) : Bool := s.all isBlank

def stripLeft (s : Text) : Text := s.dropWhile isBlank

def stripRight (s : Text) : Text := dropEndWhile isBlank s

/-- A text without the white space at its ends. -/
def strip (s : Text) : Text := stripRight (stripLeft s)

theorem length_stripLeft_le (s : Text) : (stripLeft s).length ≤ s.length :=
  (List.dropWhile_sublist isBlank).length_le

end Folio.Text
