import Folio.Proofs.Decimal.Digits
import Folio.Proofs.Decimal.Rounding

/-! The rounding of a quotient. The exponent is found from binary logarithms and the mantissa from
one division, and together they are the number to which the quotient rounds. -/
namespace Folio.Decimal.Binary64

section Round

variable {num den : Nat} {e : Int}

theorem quotient_lt_iff (positive : 0 < den) (k : Nat) :
    num * 2 ^ (-e).toNat / (den * 2 ^ e.toNat) < k ↔ (num / den : ℚ) < k * 2 ^ e := by
  have unit : (0 : ℚ) < den := by exact_mod_cast positive
  rw [Nat.div_lt_iff_lt_mul (by positivity), ← @Nat.cast_lt ℚ, zpow_eq_div 2 e,
    div_lt_iff₀ unit]
  push_cast
  rw [mul_div_assoc', div_mul_eq_mul_div, lt_div_iff₀ (by positivity)]
  constructor <;> intro less <;> linarith

theorem roundDiv_bounds (num den : Nat) :
    num / den ≤ roundDiv num den ∧ roundDiv num den ≤ num / den + 1 := by
  simp only [roundDiv]
  split <;> omega

/-- The binary logarithms of a quotient's parts tell it up to a factor of two on either side. -/
theorem quotient_between (nonzero : num ≠ 0) (positive : 0 < den) :
    (2 : ℚ) ^ ((num.log2 : Int) - den.log2 - 1) < num / den ∧
      (num / den : ℚ) < 2 ^ ((num.log2 : Int) - den.log2 + 1) := by
  have unit : (0 : ℚ) < den := by exact_mod_cast positive
  have low : (2 : ℚ) ^ num.log2 ≤ num := by exact_mod_cast Nat.log2_self_le nonzero
  have high : (num : ℚ) < 2 ^ (num.log2 + 1) := by exact_mod_cast Nat.lt_log2_self
  have low' : (2 : ℚ) ^ den.log2 ≤ den := by exact_mod_cast Nat.log2_self_le (by omega)
  have high' : (den : ℚ) < 2 ^ (den.log2 + 1) := by exact_mod_cast Nat.lt_log2_self
  rw [lt_div_iff₀ unit, div_lt_iff₀ unit]
  constructor
  · calc (2 : ℚ) ^ ((num.log2 : Int) - den.log2 - 1) * den
        < 2 ^ ((num.log2 : Int) - den.log2 - 1) * 2 ^ (den.log2 + 1) :=
          mul_lt_mul_of_pos_left high' (by positivity)
      _ = 2 ^ num.log2 := by
          rw [← zpow_natCast, ← zpow_natCast, ← zpow_add₀ (by norm_num)]
          congr 1
          omega
      _ ≤ num := low
  · calc (num : ℚ) < 2 ^ (num.log2 + 1) := high
      _ = 2 ^ ((num.log2 : Int) - den.log2 + 1) * 2 ^ den.log2 := by
          rw [← zpow_natCast, ← zpow_natCast, ← zpow_add₀ (by norm_num)]
          congr 1
          omega
      _ ≤ 2 ^ ((num.log2 : Int) - den.log2 + 1) * den :=
          mul_le_mul_of_nonneg_left low' (by positivity)

/-- The exponent at which a quotient has a mantissa of 53 bits, if the least exponent allows. -/
def placed (num den : Nat) : Int :=
  let guess : Int := max ((num.log2 : Int) - den.log2 - 53) leastExponent
  if num * 2 ^ (-guess).toNat / (den * 2 ^ guess.toNat) < 2 ^ 53 then guess else guess + 1

theorem placed_spec (nonzero : num ≠ 0) (positive : 0 < den) :
    leastExponent ≤ placed num den ∧ (num / den : ℚ) < (2 ^ 53 : Nat) * 2 ^ placed num den ∧
      (placed num den = leastExponent ∨ (2 ^ 52 : Nat) * 2 ^ placed num den ≤ (num / den : ℚ)) := by
  obtain ⟨low, high⟩ := quotient_between nonzero positive
  have scale (k : Nat) (e : Int) : ((2 ^ k : Nat) : ℚ) * 2 ^ e = 2 ^ (k + e) := by
    rw [zpow_add₀ (by norm_num), zpow_natCast]
    push_cast
    rfl
  simp only [placed]
  generalize same : max ((num.log2 : Int) - den.log2 - 53) leastExponent = guess
  split
  · rename_i below
    rw [quotient_lt_iff positive] at below
    refine ⟨by omega, below, ?_⟩
    by_cases bottom : guess = leastExponent
    · exact Or.inl bottom
    · right
      have place : (52 : Nat) + guess = (num.log2 : Int) - den.log2 - 1 := by omega
      rw [scale, place]
      exact le_of_lt low
  · rename_i above
    rw [quotient_lt_iff positive] at above
    refine ⟨by omega, ?_, Or.inr ?_⟩
    · rw [scale]
      apply lt_of_lt_of_le high
      apply zpow_le_zpow_right₀ (by norm_num)
      omega
    · have place : ((52 : Nat) : Int) + (guess + 1) = (53 : Nat) + guess := by omega
      rw [scale, place, ← scale]
      exact not_lt.mp above

/-- Mantissa and exponent of a quotient, before the exponent is found to be too large. -/
def rounded (num den : Nat) : Nat × Int :=
  let e := placed num den
  let m := roundDiv (num * 2 ^ (-e).toNat) (den * 2 ^ e.toNat)
  if m = 2 ^ 53 then (2 ^ 52, e + 1) else (m, e)

theorem round_eq (negative : Bool) (nonzero : num ≠ 0) : round negative num den =
    if (rounded num den).2 > greatestExponent then .infinity negative
    else .finite negative (rounded num den).1 (rounded num den).2 := by
  rw [round, if_neg nonzero]
  rfl

/-- A rounded quotient is at most half of the divisor away, and an odd one less than that. -/
theorem roundDiv_spec (num : Nat) (positive : 0 < den) :
    2 * (roundDiv num den * den) ≤ 2 * num + den ∧ 2 * num ≤ 2 * (roundDiv num den * den) + den ∧
      (roundDiv num den % 2 = 1 →
        2 * (roundDiv num den * den) < 2 * num + den ∧
          2 * num < 2 * (roundDiv num den * den) + den) := by
  have split := Nat.div_add_mod' num den
  have rest := Nat.mod_lt num positive
  simp only [roundDiv]
  split
  · rw [Nat.add_one_mul (num / den) den]
    omega
  · omega

/-- The bounds of a mantissa against the two whole numbers that are divided for it. -/
theorem quarters_le_scaled_iff {k : Nat} (positive : 0 < den) :
    quarters k e ≤ (num / den : ℚ) ↔ k * (den * 2 ^ e.toNat) ≤ 4 * (num * 2 ^ (-e).toNat) := by
  rw [quarters_le_div_iff positive, Nat.mul_comm den, Nat.mul_left_comm num]

theorem scaled_le_quarters_iff {k : Nat} (positive : 0 < den) :
    (num / den : ℚ) ≤ quarters k e ↔ 4 * (num * 2 ^ (-e).toNat) ≤ k * (den * 2 ^ e.toNat) := by
  rw [div_le_quarters_iff positive, Nat.mul_comm den, Nat.mul_left_comm num]

theorem lowQuarters_mul_le {m n d : Nat} (full : e = leastExponent ∨ 2 ^ 52 ≤ n / d)
    (positive : 0 < d) (low : 2 * (m * d) ≤ 2 * n + d) : lowQuarters m e * d ≤ 4 * n := by
  unfold lowQuarters
  split
  · rename_i narrow
    have reached : 2 ^ 52 ≤ n / d := by
      rcases full with bottom | reached
      · omega
      · exact reached
    have whole : 2 ^ 52 * d ≤ n := (Nat.le_div_iff_mul_le positive).mp reached
    rw [narrow.1]
    omega
  · rw [Nat.sub_mul, Nat.mul_assoc]
    omega

/-- The quotient is one of the rationals that round to the number found for it. -/
theorem rounded_spec (nonzero : num ≠ 0) (positive : 0 < den) :
    Fits (rounded num den).1 (rounded num den).2 ∧
      RoundsTo (rounded num den).1 (rounded num den).2 (num / den) := by
  obtain ⟨least, narrow, full⟩ := placed_spec nonzero positive
  rw [← quotient_lt_iff positive] at narrow
  rw [← not_lt, ← quotient_lt_iff positive, not_lt] at full
  simp only [rounded]
  generalize placed num den = e at *
  have scaled : 0 < den * 2 ^ e.toNat := Nat.mul_pos positive (Nat.pow_pos (by decide))
  have low {k : Nat} : quarters k e ≤ (num / den : ℚ) ↔
      k * (den * 2 ^ e.toNat) ≤ 4 * (num * 2 ^ (-e).toNat) := quarters_le_scaled_iff positive
  have high {k : Nat} : (num / den : ℚ) ≤ quarters k e ↔
      4 * (num * 2 ^ (-e).toNat) ≤ k * (den * 2 ^ e.toNat) := scaled_le_quarters_iff positive
  generalize num * 2 ^ (-e).toNat = n at *
  generalize den * 2 ^ e.toNat = d at *
  obtain ⟨below, above⟩ := roundDiv_bounds n d
  obtain ⟨floor, ceiling, odd⟩ := roundDiv_spec n scaled
  generalize roundDiv n d = m at *
  split
  -- rounded up to the next power of two: its lower bound is the half place below it
  · rename_i carried
    subst carried
    refine ⟨⟨by norm_num, by omega, Or.inr (le_refl _)⟩, ?_⟩
    have raised : 2 ^ 52 = 2 ^ 52 ∧ e + 1 > leastExponent := ⟨rfl, by omega⟩
    have even : 2 ^ 52 % 2 = 0 := by decide
    change RoundsTo (2 ^ 52) (e + 1) _
    rw [RoundsTo, if_pos even, lower, upper, lowQuarters, if_pos raised, quarters_step,
      quarters_step, low, high]
    omega
  · change Fits m e ∧ RoundsTo m e _
    refine ⟨⟨by omega, least, by omega⟩, ?_⟩
    have fill : (4 * m + 2) * d = 4 * (m * d) + 2 * d := by rw [Nat.add_mul, Nat.mul_assoc]
    unfold RoundsTo lower upper
    split
    · rw [low, high, fill]
      exact ⟨lowQuarters_mul_le full scaled floor, by omega⟩
    · rename_i uneven
      have quarters : lowQuarters m e = 4 * m - 2 := if_neg (by omega)
      have strict := odd (by omega)
      have whole : d ≤ m * d := Nat.le_mul_of_pos_left d (by omega)
      rw [← not_le, ← not_le, low, high, fill, quarters, Nat.sub_mul, Nat.mul_assoc]
      omega

theorem round_of_roundsTo {m : Nat} (negative : Bool) (positive : 0 < den) (fits : Fits m e)
    (inside : e ≤ greatestExponent) (nonzero : 0 < m) (rounds : RoundsTo m e (num / den)) :
    round negative num den = .finite negative m e := by
  have some : num ≠ 0 := by
    rintro rfl
    have above := rounds.positive nonzero
    rw [Nat.cast_zero, zero_div] at above
    exact lt_irrefl 0 above
  obtain ⟨fits', rounds'⟩ := rounded_spec some positive
  obtain ⟨mantissa, exponent⟩ := rounds'.unique rounds fits' fits
  rw [round_eq negative some, mantissa, exponent, if_neg (by omega)]

/-- What is rounded fits, unless it is infinite. -/
theorem round_fits {negative sign : Bool} {m : Nat} (positive : 0 < den)
    (result : round negative num den = .finite sign m e) : Fits m e ∧ e ≤ greatestExponent := by
  by_cases zero : num = 0
  · rw [round, if_pos zero] at result
    cases result
    exact ⟨⟨by decide, le_refl _, Or.inl rfl⟩, by decide⟩
  · rw [round_eq negative zero] at result
    split at result
    · cases result
    · cases result
      exact ⟨(rounded_spec zero positive).1, by omega⟩

/-- What rounds to a number other than zero is far from the powers of ten at which the digits are
not looked at. -/
theorem RoundsTo.between {m : Nat} {q : ℚ} (rounds : RoundsTo m e q) (fits : Fits m e)
    (inside : e ≤ greatestExponent) (nonzero : 0 < m) :
    (10 : ℚ) ^ (-330 : Int) ≤ q ∧ q < 10 ^ (310 : Int) := by
  obtain ⟨low, high⟩ := rounds.bounds
  constructor
  -- 2³³ < 10¹⁰ and 2²⁰⁵ < 10⁶² keep the powers small enough to compare
  · have some : 2 ^ 1 ≤ lowQuarters m e := by
      unfold lowQuarters
      split <;> omega
    have smallest : (2 : ℚ) ^ (-33 * 33 : Int) ≤ quarters (2 ^ 1) leastExponent := by
      rw [quarters_two_pow]
      exact zpow_le_zpow_right₀ (by norm_num) (by decide)
    calc (10 : ℚ) ^ (-330 : Int) = (10 ^ (-10 : Int)) ^ (33 : Int) := zpow_mul 10 (-10) 33
      _ ≤ (2 ^ (-33 : Int)) ^ (33 : Int) :=
          zpow_le_zpow_left₀ (by norm_num) (by positivity) (by norm_num)
      _ = 2 ^ (-33 * 33 : Int) := (zpow_mul 2 (-33) 33).symm
      _ ≤ quarters (2 ^ 1) leastExponent := smallest
      _ ≤ quarters (lowQuarters m e) leastExponent := quarters_le_iff.mpr some
      _ ≤ lower m e := quarters_le_of_le fits.least
      _ ≤ q := low
  · have narrow : 4 * m + 2 ≤ 2 ^ 55 := by
      have := fits.narrow
      omega
    have largest : quarters (2 ^ 55) greatestExponent < 2 ^ (205 * 5 : Int) := by
      rw [quarters_two_pow]
      exact zpow_lt_zpow_right₀ (by norm_num) (by decide)
    calc q ≤ upper m e := high
      _ ≤ quarters (2 ^ 55) e := quarters_le_iff.mpr narrow
      _ ≤ quarters (2 ^ 55) greatestExponent := quarters_le_of_le inside
      _ < 2 ^ (205 * 5 : Int) := largest
      _ = (2 ^ (205 : Int)) ^ (5 : Int) := zpow_mul 2 205 5
      _ ≤ (10 ^ (62 : Int)) ^ (5 : Int) :=
          zpow_le_zpow_left₀ (by norm_num) (by positivity) (by norm_num)
      _ = 10 ^ (310 : Int) := (zpow_mul 10 62 5).symm

/-- A decimal is read as the number to which it rounds. -/
theorem ofDecimal_of_roundsTo {m : Nat} {ds : List Nat} {exponent : Int} (negative : Bool)
    (all : AllDigits ds) (fits : Fits m e) (inside : e ≤ greatestExponent) (nonzero : 0 < m)
    (rounds : RoundsTo m e (ofDigits ds * 10 ^ exponent)) :
    ofDecimal negative ds exponent = .finite negative m e := by
  obtain ⟨a, front⟩ := dropWhile_zeros ds
  obtain ⟨low, high⟩ := rounds.between fits inside nonzero
  have number := congrArg ofDigits front
  rw [ofDigits_zeros_append] at number
  have kept : AllDigits (ds.dropWhile (· = 0)) :=
    fun d member => all d ((List.dropWhile_sublist _).mem member)
  have leading := head?_dropWhile_zeros ds
  rw [number] at rounds low high
  simp only [ofDecimal]
  generalize ds.dropWhile (· = 0) = ds' at *
  have nonempty : ds' ≠ [] := by
    rintro rfl
    have positive := rounds.positive nonzero
    simp [ofDigits] at positive
  obtain ⟨least, most⟩ := ofDigits_scaled kept nonempty leading exponent
  have top : -330 < (ds'.length : Int) + exponent :=
    (zpow_lt_zpow_iff_right₀ (by norm_num)).mp (lt_of_le_of_lt low most)
  have bottom : (ds'.length : Int) + exponent - 1 < 310 :=
    (zpow_lt_zpow_iff_right₀ (by norm_num)).mp (lt_of_le_of_lt least high)
  rw [if_neg (by simp [nonempty]; omega), if_neg (by omega)]
  apply round_of_roundsTo negative (Nat.pow_pos (by decide)) fits inside nonzero
  rw [zpow_eq_div 10 exponent] at rounds
  simp only [Nat.pow_eq]
  push_cast
  rwa [← mul_div_assoc] at rounds

theorem ofDecimal_fits {negative sign : Bool} {ds : List Nat} {exponent : Int} {m : Nat}
    (result : ofDecimal negative ds exponent = .finite sign m e) :
    Fits m e ∧ e ≤ greatestExponent := by
  simp only [ofDecimal] at result
  split at result
  · cases result
    exact ⟨⟨by decide, le_refl _, Or.inl rfl⟩, by decide⟩
  · split at result
    · cases result
    · exact round_fits (Nat.pow_pos (by decide)) result

end Round

end Folio.Decimal.Binary64
