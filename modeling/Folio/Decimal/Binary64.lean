import Folio.Decimal.Digits

/-! Double-precision numbers as exact values, and the rounding of a quotient to the nearest of them.
A finite number is a mantissa times a power of two, in the one form whose mantissa is as large as
53 bits and the least exponent allow. -/
namespace Folio.Decimal

/-- A quotient to the nearest whole number; a tie goes to the even one. -/
def roundDiv (num den : Nat) : Nat :=
  let whole := num / den
  let twice := 2 * (num % den)
  if twice > den ∨ (twice = den ∧ whole % 2 = 1) then whole + 1 else whole

inductive Binary64
  | nan
  | infinity (negative : Bool)
  | finite (negative : Bool) (mantissa : Nat) (exponent : Int)
  deriving DecidableEq, Repr

namespace Binary64

def leastExponent : Int := -1074

def greatestExponent : Int := 971

def zero (negative : Bool) : Binary64 := .finite negative 0 leastExponent

def isZero : Binary64 → Bool
  | .finite _ 0 _ => true
  | _ => false

/-- The nearest number to `num / den`, ties to the even mantissa; too large a quotient is
infinite. -/
def round (negative : Bool) (num den : Nat) : Binary64 :=
  if num = 0 then zero negative
  else
    let scaled (e : Int) : Nat × Nat := (num * Nat.pow 2 (-e).toNat, den * Nat.pow 2 e.toNat)
    let guess : Int := max ((num.log2 : Int) - den.log2 - 53) leastExponent
    let (n, d) := scaled guess
    let e := if n / d < Nat.pow 2 53 then guess else guess + 1
    let (n, d) := scaled e
    let m := roundDiv n d
    let (m, e) := if m = Nat.pow 2 53 then (Nat.pow 2 52, e + 1) else (m, e)
    if e > greatestExponent then .infinity negative else .finite negative m e

def ofInt (n : Int) : Binary64 := round (n < 0) n.natAbs 1

/-- The nearest number to whole digits times a power of ten. Beyond the cut-offs the result is
known from the position of the first digit alone. -/
def ofDecimal (negative : Bool) (ds : List Nat) (exponent : Int) : Binary64 :=
  let ds := ds.dropWhile (· = 0)
  let top := (ds.length : Int) + exponent
  if ds = [] ∨ top < -330 then zero negative
  else if top > 310 then .infinity negative
  else round negative (ofDigits ds * Nat.pow 10 exponent.toNat) (Nat.pow 10 (-exponent).toNat)

end Binary64

end Folio.Decimal
