import Folio.Text.Basic
import Folio.Text.Table.Digit
import Folio.Text.Table.Word

/-! Classes of characters: sets of code points, the characters of words, and digits. -/
namespace Folio.Text

namespace CodeRange

/-- The range that holds a code point, of a set that is given by increasing inclusive ranges. The
search stops at the first range that starts above it. -/
def find? (n : Nat) : List (Nat × Nat) → Option (Nat × Nat)
  | [] => none
  | (low, high) :: ranges =>
    if n < low then none else if n ≤ high then some (low, high) else find? n ranges

def contains (ranges : List (Nat × Nat)) (n : Nat) : Bool := (find? n ranges).isSome

end CodeRange

/-- A letter, a character with a numeric value or the underscore. -/
def isWord (c : Char) : Bool := c == '_' || CodeRange.contains Table.word c.toNat

/-- The value of a decimal digit. Each run of digits starts with a zero and holds whole decades. -/
def digitValue? (c : Char) : Option Nat :=
  (CodeRange.find? c.toNat Table.digit).map fun run => (c.toNat - run.1) % 10

def isDigit (c : Char) : Bool := (digitValue? c).isSome

def hexValue? (c : Char) : Option Nat :=
  if '0' ≤ c ∧ c ≤ '9' then some (c.toNat - '0'.toNat)
  else if 'a' ≤ c ∧ c ≤ 'f' then some (c.toNat - 'a'.toNat + 10)
  else if 'A' ≤ c ∧ c ≤ 'F' then some (c.toNat - 'A'.toNat + 10)
  else none

def hexDigit (n : Nat) : Char := (n % 16).digitChar

def hex : Nat → Nat → Text
  | 0, _ => []
  | width + 1, n => hex width (n / 16) ++ [hexDigit n]

end Folio.Text
