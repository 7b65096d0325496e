import Folio.Proofs.Decimal.Nearest
import Folio.Proofs.Decimal.Spelling

/-! Number texts read back. The decimal of a text is found again from its digits and the place of
its point, and it rounds to the number that the text was written for. -/
namespace Folio.Decimal

section Recomputing

/-- The decimal of a number text: its digits without the zeros at either end, and the point counted
from the first digit that is left. -/
def Numeral.decimal (n : Numeral) : Scientific :=
  let ds := n.places.dropWhile (· = 0)
  ⟨trimmed ds, n.whole.length + n.exponent - (n.places.length - ds.length : Nat)⟩

theorem Numeral.decimal_value (n : Numeral) :
    n.decimal.value = ofDigits n.places * 10 ^ (n.exponent - n.fraction.length) := by
  obtain ⟨a, front⟩ := dropWhile_zeros n.places
  have total : n.whole.length + n.fraction.length = n.places.length := List.length_append.symm
  have count := congrArg List.length front
  have number := congrArg ofDigits front
  rw [List.length_append, List.length_replicate] at count
  rw [ofDigits_zeros_append] at number
  rw [decimal, Scientific.value_trimmed, ← number]
  congr 2
  omega

theorem Numeral.value_eq (n : Numeral) :
    n.value = (if n.negative then -1 else 1) * n.decimal.value := by
  rw [value, decimal_value]

theorem Numeral.decimal_normal {n : Numeral} (all : AllDigits n.places)
    (nonzero : ofDigits n.places ≠ 0) : n.decimal.Normal := by
  obtain ⟨a, front⟩ := dropWhile_zeros n.places
  apply Scientific.normal_trimmed
  · intro d member
    exact all d ((List.dropWhile_sublist _).mem member)
  · exact head?_dropWhile_zeros _
  · rwa [front, ofDigits_zeros_append] at nonzero

end Recomputing

namespace Binary64

def value : Binary64 → ℚ
  | .finite negative m e => (if negative then -1 else 1) * exact m e
  | _ => 0

def IsFinite : Binary64 → Prop
  | .finite _ m e => Fits m e ∧ e ≤ greatestExponent
  | _ => False

def abs : Binary64 → Binary64
  | .nan => .nan
  | .infinity _ => .infinity false
  | .finite _ m e => .finite false m e

theorem exact_pos {m : Nat} (nonzero : 0 < m) (e : Int) : 0 < exact m e := by
  unfold exact
  positivity

theorem value_eq_zero_iff {negative : Bool} {m : Nat} {e : Int} :
    value (.finite negative m e) = 0 ↔ m = 0 := by
  constructor
  · intro zero
    by_contra nonzero
    have positive := exact_pos (Nat.pos_of_ne_zero nonzero) e
    cases negative <;> simp [value] at zero <;> linarith
  · rintro rfl
    simp [value, exact]

theorem abs_value (negative : Bool) (m : Nat) (e : Int) :
    |value (.finite negative m e)| = exact m e := by
  have positive : 0 ≤ exact m e := by
    unfold exact
    positivity
  cases negative <;> simp [value, positive]

theorem value_neg_iff {negative : Bool} {m : Nat} {e : Int} (nonzero : 0 < m) :
    value (.finite negative m e) < 0 ↔ negative = true := by
  have positive := exact_pos nonzero e
  cases negative with
  | false => simpa [value] using le_of_lt positive
  | true => simpa [value] using positive

section Finite

variable {x : Binary64}

theorem eq_zero_of_value (finite : x.IsFinite) (none : x.value = 0) :
    ∃ negative, x = zero negative := by
  cases x with
  | nan => cases finite
  | infinity negative => cases finite
  | finite negative m e =>
    rw [value_eq_zero_iff] at none
    subst none
    rcases finite.1.full with bottom | wide
    · exact ⟨negative, by rw [zero, bottom]⟩
    · omega

theorem eq_finite_of_value (finite : x.IsFinite) (nonzero : x.value ≠ 0) :
    ∃ negative m e, x = .finite negative m e ∧ Fits m e ∧ e ≤ greatestExponent ∧ 0 < m := by
  cases x with
  | nan => cases finite
  | infinity negative => cases finite
  | finite negative m e =>
    rw [Ne, value_eq_zero_iff] at nonzero
    exact ⟨negative, m, e, rfl, finite.1, finite.2, Nat.pos_of_ne_zero nonzero⟩

end Finite

end Binary64

def signText (negative : Bool) : Text := if negative then ['-'] else []

namespace Layout

open Binary64 (Fits exact IsFinite)

variable {m : Nat} {e : Int}

theorem write_finite (layout : Layout) (negative : Bool) (nonzero : 0 < m) :
    layout.write (.finite negative m e) =
      signText negative ++ layout.decimal (.shortest m e) := by
  rw [write, if_neg (by omega)]
  rfl

/-- The number text of a layout is read as the decimal it was made from, and that as the number. -/
theorem read?_write (layout : Layout) (negative : Bool) (fits : Fits m e)
    (inside : e ≤ Binary64.greatestExponent) (nonzero : 0 < m) :
    ∃ n : Numeral, Numeral.read? (layout.write (.finite negative m e)) = some n ∧
      n.negative = negative ∧ n.decimal = .shortest m e ∧ n.toBinary64 = .finite negative m e := by
  obtain ⟨normal, rounds⟩ := Scientific.shortest_rounds fits nonzero
  have legible := spelling_legible layout normal
  have value : ((layout.spelling (.shortest m e)).numeral negative).decimal.value =
      (Scientific.shortest m e).value := by
    rw [Numeral.decimal_value, ← spelling_value layout normal]
    rfl
  have all : AllDigits ((layout.spelling (.shortest m e)).numeral negative).places :=
    legible.whole_digits.append legible.fraction_digits
  rw [← value] at rounds
  refine ⟨(layout.spelling (.shortest m e)).numeral negative, ?_, rfl, ?_, ?_⟩
  · rw [write_finite layout negative nonzero, ← spelling_text layout normal]
    exact read?_text legible negative
  · apply Scientific.Normal.eq_of_value _ normal value
    apply Numeral.decimal_normal all
    intro zero
    have positive := rounds.positive nonzero
    rw [Numeral.decimal_value, zero, Nat.cast_zero, zero_mul] at positive
    exact lt_irrefl 0 positive
  · rw [Numeral.decimal_value] at rounds
    exact Binary64.ofDecimal_of_roundsTo negative all fits inside nonzero rounds

/-- A finite number is read back from its text. -/
theorem write_reads_back (layout : Layout) {x : Binary64} (finite : x.IsFinite)
    (nonzero : x.value ≠ 0) :
    ∃ n : Numeral, Numeral.read? (layout.write x) = some n ∧ n.toBinary64 = x := by
  obtain ⟨negative, m, e, rfl, fits, inside, some⟩ := Binary64.eq_finite_of_value finite nonzero
  obtain ⟨n, read, -, -, back⟩ := read?_write layout negative fits inside some
  exact ⟨n, read, back⟩

end Layout

end Folio.Decimal
