import Folio.Proofs.Decimal.Digits
import Folio.Proofs.Decimal.Rounding
import Mathlib.Tactic.FieldSimp

/-! The search for the shortest decimal. Seventeen digits are always enough, so the search ends with
a decimal that rounds to the number, and its digits have no zero at either end. -/
namespace Folio.Decimal

namespace Scientific

open Binary64 (Fits RoundsTo exact exact_eq_quarters lower upper quarters quarters_lt_iff
  lowQuarters lowQuarters_lt roundsTo_exact)

def value (s : Scientific) : ℚ := ofDigits s.digits * 10 ^ (s.point - s.digits.length)

/-- Digits without a zero at either end. -/
structure Normal (s : Scientific) : Prop where
  nonempty : s.digits ≠ []
  all : AllDigits s.digits
  leading : s.digits.head? ≠ some 0
  last : s.digits.getLast? ≠ some 0

theorem Normal.bounds {s : Scientific} (h : s.Normal) :
    10 ^ (s.point - 1) ≤ s.value ∧ s.value < 10 ^ s.point := by
  have between := ofDigits_scaled h.all h.nonempty h.leading (s.point - s.digits.length)
  rwa [add_sub_cancel] at between

theorem Normal.pow_le_iff {s : Scientific} (h : s.Normal) {k : Int} :
    10 ^ k ≤ s.value ↔ k < s.point := by
  obtain ⟨low, high⟩ := h.bounds
  constructor
  · intro reached
    exact (zpow_lt_zpow_iff_right₀ (by norm_num)).mp (lt_of_le_of_lt reached high)
  · intro below
    apply le_trans _ low
    exact zpow_le_zpow_right₀ (by norm_num) (by omega)

/-- A decimal without zeros at its ends is known from its value. -/
theorem Normal.eq_of_value {s t : Scientific} (h : s.Normal) (h' : t.Normal)
    (same : s.value = t.value) : s = t := by
  have point : s.point = t.point := by
    have below : s.point - 1 < t.point := by
      rw [← h'.pow_le_iff, ← same]
      exact h.bounds.1
    have above : t.point - 1 < s.point := by
      rw [← h.pow_le_iff, same]
      exact h'.bounds.1
    omega
  -- zeros behind the digits make both numbers equally long
  have numbers : ofDigits (s.digits ++ List.replicate t.digits.length 0) =
      ofDigits (t.digits ++ List.replicate s.digits.length 0) := by
    rw [value, value, point, zpow_sub₀ (by norm_num), zpow_sub₀ (by norm_num), zpow_natCast,
      zpow_natCast] at same
    field_simp at same
    rw [ofDigits_append_zeros, ofDigits_append_zeros, Nat.mul_comm (ofDigits t.digits)]
    exact_mod_cast same
  have lists := congrArg Decimal.digits numbers
  rw [digits_ofDigits (h.all.append (allDigits_zeros _)) (by simp [h.nonempty]),
    digits_ofDigits (h'.all.append (allDigits_zeros _)) (by simp [h'.nonempty])] at lists
  · have digits := congrArg trimmed lists
    rw [trimmed_append_zeros, trimmed_append_zeros, trimmed_of_getLast? h.last,
      trimmed_of_getLast? h'.last] at digits
    cases s
    cases t
    cases point
    cases digits
    rfl
  · rw [head?_append_of_ne_nil h'.nonempty]
    exact h'.leading
  · rw [head?_append_of_ne_nil h.nonempty]
    exact h.leading

section Grid

theorem value_trimmed (ds : List Nat) (point : Int) :
    (Scientific.mk (trimmed ds) point).value = ofDigits ds * 10 ^ (point - ds.length) := by
  obtain ⟨n, whole⟩ := trimmed_zeros ds
  have length := congrArg List.length whole
  have number := congrArg ofDigits whole
  rw [List.length_append, List.length_replicate] at length
  rw [ofDigits_append_zeros] at number
  have place : point - (trimmed ds).length = n + (point - ds.length) := by omega
  rw [value, place, number, zpow_add₀ (by norm_num), zpow_natCast]
  push_cast
  ring

theorem ofGrid_value (x : Nat) (power : Int) : (ofGrid x power).value = x * 10 ^ power := by
  have grid := value_trimmed (Decimal.digits x) ((Decimal.digits x).length + power)
  rwa [ofDigits_digits, add_sub_cancel_left] at grid

theorem normal_trimmed {ds : List Nat} (all : AllDigits ds) (leading : ds.head? ≠ some 0)
    (nonzero : ofDigits ds ≠ 0) (point : Int) : (Scientific.mk (trimmed ds) point).Normal := by
  obtain ⟨n, whole⟩ := trimmed_zeros ds
  constructor
  · intro empty
    change trimmed ds = [] at empty
    rw [whole, empty, List.nil_append, ofDigits_zeros] at nonzero
    exact nonzero rfl
  · intro d member
    apply all
    rw [whole]
    exact List.mem_append_left _ member
  · intro zero
    apply leading
    change (trimmed ds).head? = some 0 at zero
    rw [whole, List.head?_append, zero]
    rfl
  · exact getLast?_trimmed ds

theorem ofGrid_normal {x : Nat} (positive : 0 < x) (power : Int) : (ofGrid x power).Normal := by
  apply normal_trimmed (allDigits_digits x) (head?_digits positive)
  rw [ofDigits_digits]
  omega

/-- A point of a grid is the same decimal on a finer grid. -/
theorem ofGrid_mul_pow {x : Nat} (positive : 0 < x) (power : Int) (n : Nat) :
    ofGrid (x * 10 ^ n) power = ofGrid x (power + n) := by
  have split := digits_mul_pow positive n
  have length : ((Decimal.digits (x * 10 ^ n)).length + power : Int) =
      (Decimal.digits x).length + (power + n) := by
    rw [split, List.length_append, List.length_replicate]
    omega
  have kept : trimmed (Decimal.digits (x * 10 ^ n)) = trimmed (Decimal.digits x) := by
    rw [split, trimmed_append_zeros]
  change Scientific.mk (trimmed (Decimal.digits (x * 10 ^ n))) _ =
    Scientific.mk (trimmed (Decimal.digits x)) _
  rw [kept, length]

end Grid

section Magnitude

theorem liftingTens_spec {num den bound : Nat} (enough : den ≤ num * 10 ^ bound) :
    den ≤ num * 10 ^ liftingTens num den bound ∧
      ∀ t < liftingTens num den bound, num * 10 ^ t < den := by
  induction bound generalizing num with
  | zero => exact ⟨enough, fun t less => absurd less (Nat.not_lt_zero t)⟩
  | succ bound ih =>
    rw [Nat.pow_succ', ← Nat.mul_assoc] at enough
    obtain ⟨lifted, before⟩ := ih enough
    by_cases large : den ≤ num
    · simp [liftingTens, large]
    · simp only [liftingTens, if_neg large]
      constructor
      · rwa [Nat.pow_succ', ← Nat.mul_assoc]
      · intro t less
        cases t with
        | zero => omega
        | succ t =>
          rw [Nat.pow_succ', ← Nat.mul_assoc]
          exact before t (by omega)

theorem magnitude_spec {num den : Nat} (positive : 0 < den) (enough : den ≤ num * 10 ^ 400) :
    (10 : ℚ) ^ (magnitude num den - 1) ≤ num / den ∧ (num / den : ℚ) < 10 ^ magnitude num den := by
  have unit : (0 : ℚ) < den := by exact_mod_cast positive
  rw [le_div_iff₀ unit, div_lt_iff₀ unit]
  unfold magnitude
  split
  · rename_i large
    have whole : 0 < num / den := Nat.div_pos large positive
    have length : 0 < (Decimal.digits (num / den)).length :=
      List.length_pos_iff.mpr (digits_ne_nil _)
    have low := (Nat.le_div_iff_mul_le positive).mp (pow_length_digits_le whole)
    have high := (Nat.div_lt_iff_lt_mul positive).mp (lt_pow_length_digits (num / den))
    have place : ((Decimal.digits (num / den)).length : Int) - 1 =
        ((Decimal.digits (num / den)).length - 1 : Nat) := by
      omega
    rw [place, zpow_natCast, zpow_natCast]
    exact ⟨by exact_mod_cast low, by exact_mod_cast high⟩
  · rename_i small
    obtain ⟨lifted, before⟩ := liftingTens_spec enough
    generalize liftingTens num den 400 = t at lifted before
    cases t with
    | zero => omega
    | succ t =>
      have above : (num : ℚ) * 10 ^ t < den := by exact_mod_cast before t (by omega)
      have below : (den : ℚ) ≤ num * 10 ^ (t + 1) := by exact_mod_cast lifted
      have up : (1 - ((t + 1 : Nat) : Int)) = -(t : Int) := by omega
      have down : -(t : Int) - 1 = -((t + 1 : Nat) : Int) := by omega
      rw [up, down, zpow_neg, zpow_neg, zpow_natCast, zpow_natCast]
      constructor
      · rw [inv_mul_le_iff₀ (by positivity), mul_comm]
        exact below
      · rw [lt_inv_mul_iff₀ (by positivity), mul_comm]
        exact above

end Magnitude

section Search

variable {m : Nat} {e : Int}

theorem readsBack_iff {x : Nat} {power : Int} :
    readsBack m e x power = true ↔ RoundsTo m e (x * 10 ^ power) := by
  have positive : 0 < 10 ^ (-power).toNat := Nat.pow_pos (by decide)
  have point : (x : ℚ) * 10 ^ power =
      ((x * 10 ^ power.toNat : Nat) : ℚ) / (10 ^ (-power).toNat : Nat) := by
    rw [zpow_eq_div 10 power]
    push_cast
    ring
  have low : (if m = 2 ^ 52 ∧ e > Binary64.leastExponent then 4 * m - 1 else 4 * m - 2) =
      lowQuarters m e := rfl
  unfold readsBack RoundsTo lower upper
  simp only [Nat.pow_eq, low]
  rw [point]
  split
  · rw [Bool.and_eq_true, decide_eq_true_iff, decide_eq_true_iff,
      Binary64.quarters_le_div_iff positive, Binary64.div_le_quarters_iff positive]
  · rw [Bool.and_eq_true, decide_eq_true_iff, decide_eq_true_iff, ← not_le, ← not_le, ← not_le,
      ← not_le, Binary64.quarters_le_div_iff positive, Binary64.div_le_quarters_iff positive]

/-- The grid point at or below the number. -/
def gridFloor (m : Nat) (e power : Int) : Nat :=
  m * 2 ^ e.toNat * 10 ^ (-power).toNat / (2 ^ (-e).toNat * 10 ^ power.toNat)

theorem exact_eq_div (m : Nat) (e : Int) :
    exact m e = ((m * 2 ^ e.toNat : Nat) : ℚ) / (2 ^ (-e).toNat : Nat) := by
  rw [exact, zpow_eq_div 2 e]
  push_cast
  ring

theorem gridFloor_spec (m : Nat) (e power : Int) :
    gridFloor m e power * 10 ^ power ≤ exact m e ∧
      exact m e < (gridFloor m e power + 1) * 10 ^ power := by
  have positive : 0 < 2 ^ (-e).toNat * 10 ^ power.toNat := by positivity
  have low := (Nat.le_div_iff_mul_le positive).mp (le_refl (gridFloor m e power))
  have high := (Nat.div_lt_iff_lt_mul positive).mp (Nat.lt_succ_self (gridFloor m e power))
  rw [← @Nat.cast_le ℚ] at low
  rw [← @Nat.cast_lt ℚ] at high
  push_cast at low high
  rw [exact, zpow_eq_div 2 e, zpow_eq_div 10 power]
  constructor
  · rw [← mul_div_assoc, ← mul_div_assoc, div_le_div_iff₀ (by positivity) (by positivity)]
    linarith
  · rw [← mul_div_assoc, ← mul_div_assoc, div_lt_div_iff₀ (by positivity) (by positivity)]
    linarith

theorem onGrid?_eq_some {power : Int} {s : Scientific} (found : onGrid? m e power = some s) :
    ∃ x : Nat, s = ofGrid x power ∧ RoundsTo m e (x * 10 ^ power) := by
  simp only [onGrid?] at found
  split at found
  · rename_i upper
    rw [Bool.and_eq_true] at upper
    cases found
    exact ⟨_, rfl, readsBack_iff.mp upper.1⟩
  · split at found
    · rename_i lower
      cases found
      exact ⟨_, rfl, readsBack_iff.mp lower⟩
    · cases found

theorem onGrid?_ne_none {power : Int}
    (near : RoundsTo m e (gridFloor m e power * 10 ^ power) ∨
      RoundsTo m e ((gridFloor m e power + 1 : Nat) * 10 ^ power)) :
    onGrid? m e power ≠ none := by
  rw [← readsBack_iff, ← readsBack_iff] at near
  have floor : m * Nat.pow 2 e.toNat * Nat.pow 10 (-power).toNat /
      (Nat.pow 2 (-e).toNat * Nat.pow 10 power.toNat) = gridFloor m e power := rfl
  intro none
  simp only [onGrid?, floor] at none
  split at none
  · cases none
  · rename_i upper
    split at none
    · cases none
    · rename_i lower
      rcases near with near | near
      · exact lower near
      · simp [near, lower] at upper

/-- If any point of a grid rounds to the number, one next to the number does. -/
theorem onGrid?_ne_none_of_point {x : Nat} {power : Int} (nonzero : 0 < m)
    (point : RoundsTo m e (x * 10 ^ power)) : onGrid? m e power ≠ none := by
  obtain ⟨floor, ceiling⟩ := gridFloor_spec m e power
  have unit : (0 : ℚ) < 10 ^ power := by positivity
  have itself := roundsTo_exact nonzero e
  apply onGrid?_ne_none
  by_cases below : x ≤ gridFloor m e power
  · left
    apply point.of_mem itself _ floor
    exact mul_le_mul_of_nonneg_right (by exact_mod_cast below) (le_of_lt unit)
  · right
    apply itself.of_mem point
    · exact_mod_cast le_of_lt ceiling
    · apply mul_le_mul_of_nonneg_right _ (le_of_lt unit)
      exact_mod_cast Nat.lt_of_not_le below

/-- Grid points stand closer than the rounding bounds once sixteen digits are behind the first. -/
theorem near_of_fine {power : Int} (nonzero : 0 < m) (narrow : m < 2 ^ 53)
    (fine : 10 ^ (power + 16) ≤ exact m e) :
    RoundsTo m e (gridFloor m e power * 10 ^ power) ∨
      RoundsTo m e ((gridFloor m e power + 1 : Nat) * 10 ^ power) := by
  obtain ⟨floor, ceiling⟩ := gridFloor_spec m e power
  have unit : (0 : ℚ) < 2 ^ e := by positivity
  have widest : (m : ℚ) * 2 ^ e ≤ (2 ^ 53 - 1) * 2 ^ e := by
    apply mul_le_mul_of_nonneg_right _ (le_of_lt unit)
    rw [le_sub_iff_add_le]
    exact_mod_cast narrow
  have low : lower m e < exact m e := by
    rw [exact_eq_quarters]
    exact quarters_lt_iff.mpr (lowQuarters_lt nonzero e)
  have high : upper m e = exact m e + 2 ^ e / 2 := Binary64.upper_eq m e
  rw [zpow_add₀ (by norm_num)] at fine
  norm_num at fine
  have next : ((gridFloor m e power + 1 : Nat) : ℚ) * 10 ^ power =
      gridFloor m e power * 10 ^ power + 10 ^ power := by
    push_cast
    ring
  have above : lower m e < (gridFloor m e power + 1 : Nat) * 10 ^ power := by
    apply lt_trans low
    exact_mod_cast ceiling
  by_cases halved : m = 2 ^ 52 ∧ e > Binary64.leastExponent
  · right
    apply RoundsTo.of_between above
    rw [high, next]
    have half : exact m e = 2 ^ 52 * 2 ^ e := by rw [exact, halved.1]; push_cast; ring
    linarith
  · have even : lower m e = exact m e - 2 ^ e / 2 := Binary64.lower_eq nonzero halved
    by_cases close : lower m e < gridFloor m e power * 10 ^ power
    · left
      apply RoundsTo.of_between close
      linarith
    · right
      apply RoundsTo.of_between above
      rw [high, next]
      rw [exact] at *
      linarith

/-- The power of ten above a number. -/
def leading (m : Nat) (e : Int) : Int := magnitude (m * 2 ^ e.toNat) (2 ^ (-e).toNat)

theorem leading_spec (nonzero : 0 < m) (least : Binary64.leastExponent ≤ e) :
    10 ^ (leading m e - 1) ≤ exact m e ∧ exact m e < 10 ^ leading m e := by
  have enough : 2 ^ (-e).toNat ≤ m * 2 ^ e.toNat * 10 ^ 400 := by
    have deepest : (-e).toNat ≤ 1074 := by
      unfold Binary64.leastExponent at least
      omega
    have tens (n : Nat) : 2 ^ (3 * n) ≤ 10 ^ n := by
      rw [Nat.pow_mul]
      exact Nat.pow_le_pow_left (by decide) n
    calc 2 ^ (-e).toNat ≤ 2 ^ (3 * 400) := Nat.pow_le_pow_right (by decide) (by omega)
      _ ≤ 10 ^ 400 := tens 400
      _ ≤ m * 2 ^ e.toNat * 10 ^ 400 := Nat.le_mul_of_pos_left _ (by positivity)
  rw [exact_eq_div]
  exact magnitude_spec (by positivity) enough

theorem findSome?_range {α : Type} {f : Nat → Option α} {j n : Nat} (less : j < n)
    (hit : f j ≠ none) :
    ∃ i ≤ j, (List.range n).findSome? f = f i ∧ f i ≠ none := by
  induction n with
  | zero => omega
  | succ n ih =>
    rw [List.range_succ, List.findSome?_append]
    by_cases earlier : j < n
    · obtain ⟨i, before, found, some⟩ := ih earlier
      refine ⟨i, before, ?_, some⟩
      rw [found, Option.or_of_isSome (Option.isSome_iff_ne_none.mpr some)]
    · obtain rfl : j = n := by omega
      cases found : (List.range j).findSome? f with
      | none =>
        refine ⟨j, le_refl j, ?_, hit⟩
        simp
      | some a =>
        obtain ⟨i, inside, value⟩ := List.exists_of_findSome?_eq_some found
        refine ⟨i, le_of_lt (List.mem_range.mp inside), ?_, ?_⟩
        · rw [value, Option.some_or]
        · simp [value]

theorem shortest_of_hit {power : Int} (first : power < leading m e)
    (last : leading m e ≤ power + 17) (hit : onGrid? m e power ≠ none) :
    ∃ x : Nat, ∃ n : Nat, shortest m e = ofGrid x (power + n) ∧
      RoundsTo m e (x * 10 ^ (power + n)) := by
  obtain ⟨j, place⟩ : ∃ j : Nat, power = leading m e - (j + 1) :=
    ⟨(leading m e - power - 1).toNat, by omega⟩
  rw [place] at hit
  let grid (n : Nat) : Option Scientific := onGrid? m e (leading m e - (n + 1))
  have tried : j < 17 := by omega
  obtain ⟨i, before, found, some⟩ := findSome?_range (f := grid) tried hit
  obtain ⟨s, value⟩ := Option.ne_none_iff_exists'.mp some
  obtain ⟨x, rfl, rounds⟩ := onGrid?_eq_some value
  have depth : leading m e - (i + 1) = power + ((j - i : Nat) : Int) := by omega
  rw [depth] at value rounds
  refine ⟨x, j - i, ?_, rounds⟩
  change ((List.range 17).findSome? grid).getD zero = _
  rw [found, value]
  rfl

end Search

section Result

variable {m : Nat} {e : Int}

theorem shortest_rounds (fits : Fits m e) (nonzero : 0 < m) :
    (shortest m e).Normal ∧ RoundsTo m e (shortest m e).value := by
  have fine := (leading_spec nonzero fits.least).1
  have depth : leading m e - 1 = leading m e - 17 + 16 := by omega
  rw [depth] at fine
  have hit : onGrid? m e (leading m e - 17) ≠ none :=
    onGrid?_ne_none (near_of_fine nonzero fits.narrow fine)
  obtain ⟨x, n, found, rounds⟩ := shortest_of_hit (by omega) (by omega) hit
  rw [found, ofGrid_value]
  refine ⟨ofGrid_normal ?_ _, rounds⟩
  apply Nat.pos_of_ne_zero
  rintro rfl
  have positive := rounds.positive nonzero
  simp at positive

/-- A decimal of at most seventeen digits is the result if no other point of its grid rounds to the
number. -/
theorem shortest_eq_ofGrid {x : Nat} {power : Int} (fits : Fits m e) (nonzero : 0 < m)
    (low : 10 ^ power ≤ exact m e) (high : exact m e < 10 ^ (power + 17))
    (point : RoundsTo m e (x * 10 ^ power))
    (alone : ∀ y : Nat, RoundsTo m e (y * 10 ^ power) → y = x) :
    shortest m e = ofGrid x power := by
  obtain ⟨above, below⟩ := leading_spec nonzero fits.least
  have first : power < leading m e :=
    (zpow_lt_zpow_iff_right₀ (by norm_num)).mp (lt_of_le_of_lt low below)
  have last : leading m e - 1 < power + 17 :=
    (zpow_lt_zpow_iff_right₀ (by norm_num)).mp (lt_of_le_of_lt above high)
  obtain ⟨y, n, found, rounds⟩ :=
    shortest_of_hit first (by omega) (onGrid?_ne_none_of_point nonzero point)
  have finer : (y : ℚ) * 10 ^ (power + n) = (y * 10 ^ n : Nat) * 10 ^ power := by
    rw [zpow_add₀ (by norm_num), zpow_natCast]
    push_cast
    ring
  rw [finer] at rounds
  have positive : 0 < y := by
    apply Nat.pos_of_ne_zero
    rintro rfl
    have positive := rounds.positive nonzero
    simp at positive
  rw [found, ← ofGrid_mul_pow positive, alone _ rounds]

/-- A grid that is wider than the last place has at most one point that rounds to the number. -/
theorem shortest_of_spaced {x : Nat} {power : Int} (fits : Fits m e) (nonzero : 0 < m)
    (low : 10 ^ power ≤ exact m e) (high : exact m e < 10 ^ (power + 17))
    (point : RoundsTo m e (x * 10 ^ power)) (spaced : (2 : ℚ) ^ e < 10 ^ power) :
    shortest m e = ofGrid x power := by
  apply shortest_eq_ofGrid fits nonzero low high point
  intro y rounds
  have unit : (0 : ℚ) < 10 ^ power := by positivity
  obtain ⟨here, here'⟩ := point.half
  obtain ⟨there, there'⟩ := rounds.half
  have above : (y : ℚ) * 10 ^ power < (x + 1) * 10 ^ power := by linarith
  have below : (x : ℚ) * 10 ^ power < (y + 1) * 10 ^ power := by linarith
  rw [mul_lt_mul_iff_left₀ unit] at above below
  have above : y < x + 1 := by exact_mod_cast above
  have below : x < y + 1 := by exact_mod_cast below
  omega

/-- The search keeps the order of the numbers. -/
theorem shortest_value_le_iff {m' : Nat} {e' : Int} (fits : Fits m e) (fits' : Fits m' e')
    (nonzero : 0 < m) (nonzero' : 0 < m') :
    (shortest m e).value ≤ (shortest m' e').value ↔ exact m e ≤ exact m' e' := by
  have rounds := (shortest_rounds fits nonzero).2
  have rounds' := (shortest_rounds fits' nonzero').2
  rcases lt_trichotomy (exact m e) (exact m' e') with less | same | more
  · exact iff_of_true (le_of_lt (rounds.lt rounds' fits fits' less)) (le_of_lt less)
  · obtain ⟨rfl, rfl⟩ := fits.eq_of_exact fits' same
    exact iff_of_true (le_refl _) (le_refl _)
  · exact iff_of_false (not_le.mpr (rounds'.lt rounds fits' fits more)) (not_le.mpr more)

end Result

end Scientific

end Folio.Decimal
