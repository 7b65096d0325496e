import Folio.Decimal.Shortest

/-! Number text: a decimal is written positionally or with an exponent, as a layout decides. -/
namespace Folio.Decimal

/-- The decisions of one kind of number text. Decimal exponents from `least` up to but without
`limit` are written positionally. -/
structure Layout where
  least : Int
  limit : Int
  keepsPoint : Bool
  exponentWidth : Nat
  signsZero : Bool
  nan : Text
  infinity : Text

namespace Layout

/-- Numbers in a document: whole numbers without a point, long zeros before an exponent. -/
def display : Layout := ⟨-6, 21, false, 1, false, "NaN".toList, "Infinity".toList⟩

/-- Numbers in data and diagnostics: always a point or an exponent, which sets them apart from
integers. -/
def literal : Layout := ⟨-4, 16, true, 2, true, "nan".toList, "inf".toList⟩

def zeros (n : Nat) : Text := List.replicate n '0'

def positional (layout : Layout) (s : Scientific) : Text :=
  if s.point ≤ 0 then ['0', '.'] ++ zeros (-s.point).toNat ++ digitText s.digits
  else
    let place := s.point.toNat
    if s.digits.length ≤ place then
      digitText s.digits ++ zeros (place - s.digits.length) ++
        (if layout.keepsPoint then ['.', '0'] else [])
    else digitText (s.digits.take place) ++ ['.'] ++ digitText (s.digits.drop place)

def exponential (layout : Layout) (s : Scientific) : Text :=
  let power := s.point - 1
  let size := natText power.natAbs
  let mantissa := match digitText s.digits with
    | [] => []
    | [d] => [d]
    | d :: more => d :: '.' :: more
  mantissa ++ ['e', if power < 0 then '-' else '+'] ++
    zeros (layout.exponentWidth - size.length) ++ size

def decimal (layout : Layout) (s : Scientific) : Text :=
  if layout.least ≤ s.point - 1 ∧ s.point - 1 < layout.limit then layout.positional s
  else layout.exponential s

def write (layout : Layout) : Binary64 → Text
  | .nan => layout.nan
  | .infinity negative => (if negative then ['-'] else []) ++ layout.infinity
  | .finite negative m e =>
    if m = 0 then
      (if negative && layout.signsZero then ['-'] else []) ++ layout.decimal .zero
    else (if negative then ['-'] else []) ++ layout.decimal (.shortest m e)

end Layout

end Folio.Decimal
