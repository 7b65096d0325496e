import Folio.Decimal.Binary64

/-! The shortest decimal that reads back as a given double-precision number. Of the decimals with
the fewest digits the nearest one is taken, and of two equally near ones the even one. -/
namespace Folio.Decimal

/-- The number `0.d₁d₂… · 10 ^ point`. -/
structure Scientific where
  digits : List Nat
  point : Int
  deriving DecidableEq, Repr

namespace Scientific

def zero : Scientific := ⟨[0], 1⟩

/-- The decimal `x · 10 ^ power`, without zeros at its end. -/
def ofGrid (x : Nat) (power : Int) : Scientific :=
  let ds := Decimal.digits x
  ⟨(ds.reverse.dropWhile (· = 0)).reverse, ds.length + power⟩

/-- The least number of tens, up to a bound, that lift a fraction to one or more. -/
def liftingTens (num den : Nat) : Nat → Nat
  | 0 => 0
  | bound + 1 => if den ≤ num then 0 else liftingTens (num * 10) den bound + 1

/-- The exponent `k` with `10 ^ (k - 1) ≤ num / den < 10 ^ k`. -/
def magnitude (num den : Nat) : Int :=
  if den ≤ num then (Decimal.digits (num / den)).length else 1 - (liftingTens num den 400 : Int)

/-- The number with mantissa `m` and exponent `e` between its two rounding bounds. The bounds are
kept in quarters of the last place; below a power of two the lower one is closer. -/
def readsBack (m : Nat) (e : Int) (x : Nat) (power : Int) : Bool :=
  let low := if m = Nat.pow 2 52 ∧ e > Binary64.leastExponent then 4 * m - 1 else 4 * m - 2
  let high := 4 * m + 2
  let value := x * Nat.pow 10 power.toNat * (4 * Nat.pow 2 (-e).toNat)
  let unit := Nat.pow 2 e.toNat * Nat.pow 10 (-power).toNat
  if m % 2 = 0 then low * unit ≤ value && value ≤ high * unit
  else low * unit < value && value < high * unit

/-- The better of the two neighbours on the grid of multiples of `10 ^ power`, if one reads back. -/
def onGrid? (m : Nat) (e : Int) (power : Int) : Option Scientific :=
  let num := m * Nat.pow 2 e.toNat * Nat.pow 10 (-power).toNat
  let den := Nat.pow 2 (-e).toNat * Nat.pow 10 power.toNat
  let below := num / den
  let lower := readsBack m e below power
  let upper := readsBack m e (below + 1) power
  let middle := (2 * below + 1) * den
  let takesUpper := upper &&
    (!lower || 2 * num > middle || (2 * num == middle && below % 2 == 1))
  if takesUpper then some (ofGrid (below + 1) power)
  else if lower then some (ofGrid below power)
  else none

/-- The shortest decimal for a positive mantissa. Seventeen digits always suffice. -/
def shortest (m : Nat) (e : Int) : Scientific :=
  let k := magnitude (m * Nat.pow 2 e.toNat) (Nat.pow 2 (-e).toNat)
  ((List.range 17).findSome? fun n : Nat => onGrid? m e (k - (n + 1))).getD zero

end Scientific

end Folio.Decimal
