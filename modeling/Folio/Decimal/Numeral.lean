import Folio.Decimal.Binary64
import Folio.Text.Class

/-! Numerals: digits with an optional sign, point and exponent. -/
namespace Folio.Decimal

structure Numeral where
  negative : Bool
  whole : List Nat
  fraction : List Nat
  exponent : Int

namespace Numeral

def toBinary64 (n : Numeral) : Binary64 :=
  .ofDecimal n.negative (n.whole ++ n.fraction) (n.exponent - n.fraction.length)

def digitValues? (s : Text) : Option (List Nat) := s.mapM Text.digitValue?

/-- A numeral without exponent: some digits, a point perhaps among or beside them, and no other
character but a minus in front. -/
def ofText? (s : Text) : Option Numeral := do
  let (negative, body) := match s with
    | '-' :: rest => (true, rest)
    | _ => (false, s)
  let (before, after) := (Text.cutAt? '.' body).getD (body, [])
  let whole ← digitValues? before
  let fraction ← digitValues? after
  guard (whole ≠ [] ∨ fraction ≠ [])
  return ⟨negative, whole, fraction, 0⟩

end Numeral

end Folio.Decimal
