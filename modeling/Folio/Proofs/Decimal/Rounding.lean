import Folio.Decimal.Shortest
import Mathlib.Algebra.Order.Field.Power
import Mathlib.Algebra.Order.Field.Rat
import Mathlib.Tactic.FieldSimp
import Mathlib.Tactic.Linarith
import Mathlib.Tactic.Positivity
import Mathlib.Tactic.Ring

/-! The rational numbers that round to a finite number. They lie between two bounds, and the bounds
of different numbers keep them apart, so the order of such rationals is the order of the numbers. -/
namespace Folio.Decimal

/-- A power with its exponent split the way quotients of natural numbers are scaled. -/
theorem zpow_eq_div (b : ℚ) (k : Int) : b ^ k = b ^ k.toNat / b ^ (-k).toNat := by
  rcases Int.le_total 0 k with up | down
  · have none : (-k).toNat = 0 := by omega
    rw [none, pow_zero, div_one, ← zpow_natCast, Int.toNat_of_nonneg up]
  · have none : k.toNat = 0 := by omega
    rw [none, pow_zero, one_div, ← zpow_natCast, Int.toNat_of_nonneg (by omega), zpow_neg, inv_inv]

namespace Binary64

/-- Mantissa and exponent in the one form that a number has if its exponent is not too large. -/
structure Fits (m : Nat) (e : Int) : Prop where
  narrow : m < 2 ^ 53
  least : leastExponent ≤ e
  full : e = leastExponent ∨ 2 ^ 52 ≤ m

def exact (m : Nat) (e : Int) : ℚ := m * 2 ^ e

/-- A number of quarters of the last place. -/
def quarters (n : Nat) (e : Int) : ℚ := n / 4 * 2 ^ e

/-- The lower bound in quarters. Below a power of two the places are half as wide. -/
def lowQuarters (m : Nat) (e : Int) : Nat :=
  if m = 2 ^ 52 ∧ e > leastExponent then 4 * m - 1 else 4 * m - 2

def lower (m : Nat) (e : Int) : ℚ := quarters (lowQuarters m e) e

def upper (m : Nat) (e : Int) : ℚ := quarters (4 * m + 2) e

/-- The rationals to which the number is the nearest one. The bounds go to even mantissas. -/
def RoundsTo (m : Nat) (e : Int) (q : ℚ) : Prop :=
  if m % 2 = 0 then lower m e ≤ q ∧ q ≤ upper m e else lower m e < q ∧ q < upper m e

theorem quarters_lt_iff {a b : Nat} {e : Int} : quarters a e < quarters b e ↔ a < b := by
  have unit : (0 : ℚ) < 2 ^ e := by positivity
  rw [quarters, quarters, mul_lt_mul_iff_left₀ unit, div_lt_div_iff_of_pos_right (by norm_num),
    Nat.cast_lt]

theorem quarters_le_iff {a b : Nat} {e : Int} : quarters a e ≤ quarters b e ↔ a ≤ b := by
  rw [← not_lt, quarters_lt_iff, not_lt]

/-- A bound is compared with a quotient in whole numbers. -/
theorem quarters_le_div_iff {n num den : Nat} {e : Int} (positive : 0 < den) :
    quarters n e ≤ (num : ℚ) / den ↔
      n * (2 ^ e.toNat * den) ≤ num * (4 * 2 ^ (-e).toNat) := by
  have unit : (0 : ℚ) < den := by exact_mod_cast positive
  rw [quarters, zpow_eq_div 2 e, div_mul_div_comm, div_le_div_iff₀ (by positivity) unit, mul_assoc]
  exact_mod_cast Iff.rfl

theorem div_le_quarters_iff {n num den : Nat} {e : Int} (positive : 0 < den) :
    (num : ℚ) / den ≤ quarters n e ↔
      num * (4 * 2 ^ (-e).toNat) ≤ n * (2 ^ e.toNat * den) := by
  have unit : (0 : ℚ) < den := by exact_mod_cast positive
  rw [quarters, zpow_eq_div 2 e, div_mul_div_comm, div_le_div_iff₀ unit (by positivity), mul_assoc]
  exact_mod_cast Iff.rfl

theorem exact_eq_quarters (m : Nat) (e : Int) : exact m e = quarters (4 * m) e := by
  rw [exact, quarters]
  push_cast
  ring

theorem quarters_step (n : Nat) (e : Int) : quarters n (e + 1) = quarters (2 * n) e := by
  rw [quarters, quarters, zpow_add_one₀ (by norm_num)]
  push_cast
  ring

theorem quarters_le_of_le {n : Nat} {e e' : Int} (ordered : e ≤ e') :
    quarters n e ≤ quarters n e' := by
  apply mul_le_mul_of_nonneg_left
  · exact zpow_le_zpow_right₀ (by norm_num) ordered
  · positivity

theorem quarters_le_of_lt {n : Nat} {e e' : Int} (less : e < e') :
    quarters (2 * n) e ≤ quarters n e' := by
  rw [← quarters_step]
  exact quarters_le_of_le less

/-- Powers of two are the same number of quarters at every exponent. -/
theorem quarters_two_pow (k : Nat) (e : Int) : quarters (2 ^ k) e = 2 ^ (k - 2 + e) := by
  rw [quarters, zpow_add₀ (by norm_num), zpow_sub₀ (by norm_num), zpow_natCast]
  push_cast
  norm_num

theorem lowQuarters_lt {m : Nat} (positive : 0 < m) (e : Int) : lowQuarters m e < 4 * m := by
  unfold lowQuarters
  split <;> omega

theorem upper_eq (m : Nat) (e : Int) : upper m e = exact m e + 2 ^ e / 2 := by
  rw [upper, quarters, exact]
  push_cast
  ring

theorem lower_eq {m : Nat} {e : Int} (nonzero : 0 < m)
    (regular : ¬ (m = 2 ^ 52 ∧ e > leastExponent)) : lower m e = exact m e - 2 ^ e / 2 := by
  have counts : ((4 * m - 2 : Nat) : ℚ) = 4 * m - 2 := by
    rw [Nat.cast_sub (by omega)]
    push_cast
    ring
  rw [lower, lowQuarters, if_neg regular, quarters, counts, exact]
  ring

theorem half_le_lower (m : Nat) (e : Int) : exact m e - 2 ^ e / 2 ≤ lower m e := by
  have counts : (4 * m : ℚ) ≤ lowQuarters m e + 2 := by
    have natural : 4 * m ≤ lowQuarters m e + 2 := by
      unfold lowQuarters
      split <;> omega
    exact_mod_cast natural
  have unit : (0 : ℚ) < 2 ^ e := by positivity
  have scaled := mul_le_mul_of_nonneg_right counts (le_of_lt unit)
  rw [lower, quarters, exact]
  linarith

namespace RoundsTo

variable {m : Nat} {e : Int} {q : ℚ}

theorem bounds (h : RoundsTo m e q) : lower m e ≤ q ∧ q ≤ upper m e := by
  unfold RoundsTo at h
  split at h
  · exact h
  · exact ⟨le_of_lt h.1, le_of_lt h.2⟩

theorem strict (h : RoundsTo m e q) (odd : m % 2 = 1) : lower m e < q ∧ q < upper m e := by
  rwa [RoundsTo, if_neg (by omega)] at h

theorem of_between (low : lower m e < q) (high : q < upper m e) : RoundsTo m e q := by
  unfold RoundsTo
  split
  · exact ⟨le_of_lt low, le_of_lt high⟩
  · exact ⟨low, high⟩

theorem half (h : RoundsTo m e q) : exact m e - 2 ^ e / 2 ≤ q ∧ q ≤ exact m e + 2 ^ e / 2 := by
  rw [← upper_eq]
  exact ⟨le_trans (half_le_lower m e) h.bounds.1, h.bounds.2⟩

theorem of_mem {q' r : ℚ} (h : RoundsTo m e q) (h' : RoundsTo m e q') (low : q ≤ r)
    (high : r ≤ q') : RoundsTo m e r := by
  unfold RoundsTo at *
  split at h
  · rename_i even
    rw [if_pos even] at h' ⊢
    exact ⟨le_trans h.1 low, le_trans high h'.2⟩
  · rename_i odd
    rw [if_neg odd] at h' ⊢
    exact ⟨lt_of_lt_of_le h.1 low, lt_of_le_of_lt high h'.2⟩

theorem positive (h : RoundsTo m e q) (nonzero : 0 < m) : 0 < q := by
  have some : 0 < lowQuarters m e := by
    unfold lowQuarters
    split <;> omega
  have low : quarters 0 e < lower m e := quarters_lt_iff.mpr some
  rw [quarters, Nat.cast_zero, zero_div, zero_mul] at low
  exact lt_of_lt_of_le low h.bounds.1

end RoundsTo

theorem roundsTo_exact {m : Nat} (nonzero : 0 < m) (e : Int) : RoundsTo m e (exact m e) := by
  rw [exact_eq_quarters]
  apply RoundsTo.of_between
  · exact quarters_lt_iff.mpr (lowQuarters_lt nonzero e)
  · apply quarters_lt_iff.mpr
    omega

section Apart

variable {m m' : Nat} {e e' : Int}

theorem Fits.wide (fits : Fits m e) (raised : leastExponent < e) : 2 ^ 52 ≤ m := by
  rcases fits.full with bottom | wide
  · omega
  · exact wide

theorem exponent_le_of_exact_le (fits : Fits m e) (fits' : Fits m' e')
    (ordered : exact m e ≤ exact m' e') : e ≤ e' := by
  by_contra above
  have wide : 2 ^ 52 ≤ m := fits.wide (lt_of_le_of_lt fits'.least (not_le.mp above))
  have narrow : m' < 2 ^ 53 := fits'.narrow
  rw [exact_eq_quarters, exact_eq_quarters] at ordered
  have mantissas : quarters (2 * (4 * m)) e' ≤ quarters (4 * m') e' :=
    le_trans (quarters_le_of_lt (not_le.mp above)) ordered
  rw [quarters_le_iff] at mantissas
  omega

/-- A number has one mantissa and one exponent. -/
theorem Fits.eq_of_exact (fits : Fits m e) (fits' : Fits m' e') (same : exact m e = exact m' e') :
    m = m' ∧ e = e' := by
  have up : e ≤ e' := exponent_le_of_exact_le fits fits' (le_of_eq same)
  have down : e' ≤ e := exponent_le_of_exact_le fits' fits (le_of_eq same.symm)
  obtain rfl : e = e' := le_antisymm up down
  have front : 4 * m ≤ 4 * m' := by
    rw [← quarters_le_iff (e := e), ← exact_eq_quarters, ← exact_eq_quarters, same]
  have back : 4 * m' ≤ 4 * m := by
    rw [← quarters_le_iff (e := e), ← exact_eq_quarters, ← exact_eq_quarters, same]
  omega

/-- The bounds between two numbers meet at most where one of the mantissas is odd. -/
theorem upper_le_lower (fits : Fits m e) (fits' : Fits m' e') (less : exact m e < exact m' e') :
    upper m e ≤ lower m' e' ∧ (upper m e = lower m' e' → m % 2 = 1 ∨ m' % 2 = 1) := by
  rcases lt_or_eq_of_le (exponent_le_of_exact_le fits fits' (le_of_lt less)) with apart | rfl
  · have narrow : m < 2 ^ 53 := fits.narrow
    have raised : leastExponent < e' := lt_of_le_of_lt fits.least apart
    have wide : 2 ^ 52 ≤ m' := fits'.wide raised
    have reached : quarters (2 * lowQuarters m' e') e ≤ lower m' e' := quarters_le_of_lt apart
    -- the widest mantissa is odd, so it never claims the bound that it shares
    have order : 4 * m + 2 < 2 * lowQuarters m' e' ∨
        4 * m + 2 = 2 * lowQuarters m' e' ∧ m % 2 = 1 := by
      unfold lowQuarters
      split <;> omega
    rcases order with strictly | ⟨same, odd⟩
    · have below : upper m e < lower m' e' :=
        lt_of_lt_of_le (quarters_lt_iff.mpr strictly) reached
      exact ⟨le_of_lt below, fun meet => absurd meet (ne_of_lt below)⟩
    · rw [← same] at reached
      exact ⟨reached, fun _ => Or.inl odd⟩
  · rw [exact_eq_quarters, exact_eq_quarters, quarters_lt_iff] at less
    have order : 4 * m + 2 < lowQuarters m' e ∨
        4 * m + 2 = lowQuarters m' e ∧ (m % 2 = 1 ∨ m' % 2 = 1) := by
      unfold lowQuarters
      split <;> omega
    rcases order with strictly | ⟨same, odd⟩
    · have below : upper m e < lower m' e := quarters_lt_iff.mpr strictly
      exact ⟨le_of_lt below, fun meet => absurd meet (ne_of_lt below)⟩
    · rw [upper, lower, same]
      exact ⟨le_refl _, fun _ => odd⟩

theorem RoundsTo.lt {q q' : ℚ} (h : RoundsTo m e q) (h' : RoundsTo m' e' q') (fits : Fits m e)
    (fits' : Fits m' e') (less : exact m e < exact m' e') : q < q' := by
  obtain ⟨apart, meet⟩ := upper_le_lower fits fits' less
  rcases lt_or_eq_of_le apart with strictly | same
  · exact lt_of_le_of_lt h.bounds.2 (lt_of_lt_of_le strictly h'.bounds.1)
  · rcases meet same with odd | odd
    · exact lt_of_lt_of_le (h.strict odd).2 (le_trans apart h'.bounds.1)
    · exact lt_of_le_of_lt (le_trans h.bounds.2 apart) (h'.strict odd).1

/-- A rational rounds to one number only. -/
theorem RoundsTo.unique {q : ℚ} (h : RoundsTo m e q) (h' : RoundsTo m' e' q) (fits : Fits m e)
    (fits' : Fits m' e') : m = m' ∧ e = e' := by
  apply fits.eq_of_exact fits'
  apply le_antisymm
  · by_contra more
    exact lt_irrefl q (h'.lt h fits' fits (not_le.mp more))
  · by_contra less
    exact lt_irrefl q (h.lt h' fits fits' (not_le.mp less))

end Apart

end Binary64

end Folio.Decimal
