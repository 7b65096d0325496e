import Folio.Decimal.Digits
import Mathlib.Algebra.Order.Field.Power
import Mathlib.Algebra.Order.Field.Rat
import Mathlib.Data.List.Induction
import Mathlib.Data.List.TakeWhile
import Mathlib.Tactic.Positivity
import Mathlib.Tactic.Ring

/-! Digits and the numbers they stand for: how far a number can be from the power of ten that its
number of digits gives, and what zeros at either end do. -/
namespace Folio.Decimal

def AllDigits (ds : List Nat) : Prop := ∀ d ∈ ds, d < 10

theorem AllDigits.append {front back : List Nat} (h : AllDigits front) (h' : AllDigits back) :
    AllDigits (front ++ back) := by
  intro d member
  rcases List.mem_append.mp member with inside | inside
  · exact h d inside
  · exact h' d inside

theorem allDigits_zeros (n : Nat) : AllDigits (List.replicate n 0) := by
  intro d member
  rw [List.eq_of_mem_replicate member]
  decide

theorem digits_of_lt {n : Nat} (small : n < 10) : digits n = [n] := by
  rw [digits, if_pos small]

theorem digits_of_le {n : Nat} (large : 10 ≤ n) : digits n = digits (n / 10) ++ [n % 10] := by
  rw [digits, if_neg (by omega)]

theorem digits_ne_nil (n : Nat) : digits n ≠ [] := by
  rw [digits]
  split <;> simp

theorem allDigits_digits (n : Nat) : AllDigits (digits n) := by
  induction n using digits.induct with
  | case1 n small =>
    rw [digits_of_lt small]
    simpa [AllDigits] using small
  | case2 n large ih =>
    rw [digits_of_le (by omega)]
    apply ih.append
    intro d member
    cases List.mem_singleton.mp member
    exact Nat.mod_lt n (by decide)

theorem head?_append_of_ne_nil {front : List Nat} (nonempty : front ≠ []) (back : List Nat) :
    (front ++ back).head? = front.head? := by
  rw [List.head?_append, List.head?_eq_some_head nonempty, Option.some_or]

theorem head?_digits {n : Nat} (positive : 0 < n) : (digits n).head? ≠ some 0 := by
  induction n using digits.induct with
  | case1 n small =>
    rw [digits_of_lt small]
    simp
    omega
  | case2 n large ih =>
    rw [digits_of_le (by omega), head?_append_of_ne_nil (digits_ne_nil _)]
    apply ih
    omega

section OfDigits

theorem ofDigits_append (front back : List Nat) :
    ofDigits (front ++ back) = ofDigits front * 10 ^ back.length + ofDigits back := by
  induction back using List.reverseRecOn with
  | nil => simp [ofDigits]
  | append_singleton back d ih =>
    rw [← List.append_assoc, ofDigits_append_one, ofDigits_append_one, ih, List.length_append,
      List.length_singleton]
    ring

theorem ofDigits_cons (d : Nat) (ds : List Nat) :
    ofDigits (d :: ds) = d * 10 ^ ds.length + ofDigits ds := by
  have split := ofDigits_append [d] ds
  simpa [ofDigits] using split

theorem ofDigits_zeros (n : Nat) : ofDigits (List.replicate n 0) = 0 := by
  induction n with
  | zero => rfl
  | succ n ih => rw [List.replicate_succ, ofDigits_cons, ih, Nat.zero_mul]

theorem ofDigits_append_zeros (ds : List Nat) (n : Nat) :
    ofDigits (ds ++ List.replicate n 0) = ofDigits ds * 10 ^ n := by
  rw [ofDigits_append, ofDigits_zeros, List.length_replicate, Nat.add_zero]

theorem ofDigits_zeros_append (n : Nat) (ds : List Nat) :
    ofDigits (List.replicate n 0 ++ ds) = ofDigits ds := by
  rw [ofDigits_append, ofDigits_zeros, Nat.zero_mul, Nat.zero_add]

theorem ofDigits_lt {ds : List Nat} (all : AllDigits ds) : ofDigits ds < 10 ^ ds.length := by
  induction ds using List.reverseRecOn with
  | nil => simp [ofDigits]
  | append_singleton ds d ih =>
    have front := ih fun d member => all d (List.mem_append_left _ member)
    have last : d < 10 := all d (by simp)
    rw [ofDigits_append_one, List.length_append, List.length_singleton, Nat.pow_succ]
    omega

theorem le_ofDigits {ds : List Nat} (nonempty : ds ≠ []) (leading : ds.head? ≠ some 0) :
    10 ^ (ds.length - 1) ≤ ofDigits ds := by
  cases ds with
  | nil => exact absurd rfl nonempty
  | cons d ds =>
    have positive : 0 < d := Nat.pos_of_ne_zero fun zero => leading (by rw [zero]; rfl)
    rw [ofDigits_cons, List.length_cons, Nat.add_sub_cancel]
    exact Nat.le_add_right_of_le (Nat.le_mul_of_pos_left _ positive)

/-- Digits behind any place lie between the powers of ten at their first one. -/
theorem ofDigits_scaled {ds : List Nat} (all : AllDigits ds) (nonempty : ds ≠ [])
    (leading : ds.head? ≠ some 0) (k : Int) :
    (10 : ℚ) ^ (ds.length + k - 1) ≤ ofDigits ds * 10 ^ k ∧
      (ofDigits ds : ℚ) * 10 ^ k < 10 ^ (ds.length + k) := by
  have length : 0 < ds.length := List.length_pos_iff.mpr nonempty
  have unit : (0 : ℚ) < 10 ^ k := by positivity
  have low : (10 : ℚ) ^ (ds.length - 1) ≤ ofDigits ds := by
    exact_mod_cast le_ofDigits nonempty leading
  have high : (ofDigits ds : ℚ) < 10 ^ ds.length := by exact_mod_cast ofDigits_lt all
  constructor
  · have split : ds.length + k - 1 = ((ds.length - 1 : Nat) : Int) + k := by omega
    rw [split, zpow_add₀ (by norm_num), zpow_natCast]
    exact mul_le_mul_of_nonneg_right low (le_of_lt unit)
  · rw [zpow_add₀ (by norm_num), zpow_natCast]
    exact mul_lt_mul_of_pos_right high unit

theorem digits_ofDigits {ds : List Nat} (all : AllDigits ds) (nonempty : ds ≠ [])
    (leading : ds.head? ≠ some 0) : digits (ofDigits ds) = ds := by
  induction ds using List.reverseRecOn with
  | nil => exact absurd rfl nonempty
  | append_singleton ds d ih =>
    have digit : d < 10 := all d (by simp)
    rw [ofDigits_append_one]
    by_cases empty : ds = []
    · have single : 10 * ofDigits [] + d = d := Nat.zero_add d
      rw [empty, single, digits_of_lt digit, List.nil_append]
    · rw [head?_append_of_ne_nil empty] at leading
      have front := ih (fun d member => all d (List.mem_append_left _ member)) empty leading
      have positive : 0 < ofDigits ds :=
        lt_of_lt_of_le (Nat.pow_pos (by decide)) (le_ofDigits empty leading)
      have upper : (10 * ofDigits ds + d) / 10 = ofDigits ds := by omega
      have last : (10 * ofDigits ds + d) % 10 = d := by omega
      rw [digits_of_le (by omega), upper, last, front]

theorem lt_pow_length_digits (n : Nat) : n < 10 ^ (digits n).length := by
  have bound := ofDigits_lt (allDigits_digits n)
  rwa [ofDigits_digits] at bound

theorem pow_length_digits_le {n : Nat} (positive : 0 < n) : 10 ^ ((digits n).length - 1) ≤ n := by
  have bound := le_ofDigits (digits_ne_nil n) (head?_digits positive)
  rwa [ofDigits_digits] at bound

end OfDigits

section Trimmed

theorem dropWhile_zeros (ds : List Nat) : ∃ n, ds = List.replicate n 0 ++ ds.dropWhile (· = 0) := by
  have zeros : ∀ d ∈ ds.takeWhile (· = 0), d = 0 := by
    intro d member
    simpa using List.mem_takeWhile_imp member
  refine ⟨(ds.takeWhile (· = 0)).length, ?_⟩
  rw [← List.eq_replicate_of_mem zeros, List.takeWhile_append_dropWhile]

/-- The digits up to the last one that is not zero. -/
def trimmed (ds : List Nat) : List Nat := (ds.reverse.dropWhile (· = 0)).reverse

theorem head?_dropWhile_zeros (ds : List Nat) : (ds.dropWhile (· = 0)).head? ≠ some 0 := by
  intro zero
  have first := List.head?_dropWhile_not (fun d : Nat => decide (d = 0)) ds
  rw [zero] at first
  simp at first

theorem trimmed_zeros (ds : List Nat) : ∃ n, ds = trimmed ds ++ List.replicate n 0 := by
  obtain ⟨n, whole⟩ := dropWhile_zeros ds.reverse
  refine ⟨n, ?_⟩
  rw [trimmed, ← List.reverse_replicate, ← List.reverse_append, ← whole, List.reverse_reverse]

theorem getLast?_trimmed (ds : List Nat) : (trimmed ds).getLast? ≠ some 0 := by
  rw [trimmed, List.getLast?_reverse]
  exact head?_dropWhile_zeros ds.reverse

theorem trimmed_of_getLast? {ds : List Nat} (last : ds.getLast? ≠ some 0) : trimmed ds = ds := by
  obtain ⟨n, whole⟩ := trimmed_zeros ds
  cases n with
  | zero =>
    rw [List.replicate_zero, List.append_nil] at whole
    exact whole.symm
  | succ n =>
    rw [whole, List.replicate_succ', ← List.append_assoc, List.getLast?_concat] at last
    exact absurd rfl last

theorem trimmed_append_zeros (ds : List Nat) (n : Nat) :
    trimmed (ds ++ List.replicate n 0) = trimmed ds := by
  have dropped : (List.replicate n 0 ++ ds.reverse).dropWhile (· = 0) =
      ds.reverse.dropWhile (· = 0) := by
    induction n with
    | zero => rfl
    | succ n ih => exact ih
  rw [trimmed, List.reverse_append, List.reverse_replicate, dropped, trimmed]

end Trimmed

theorem digits_mul_ten {n : Nat} (positive : 0 < n) : digits (n * 10) = digits n ++ [0] := by
  rw [digits_of_le (by omega), Nat.mul_div_cancel n (by decide), Nat.mul_mod_left]

theorem digits_mul_pow {n : Nat} (positive : 0 < n) (k : Nat) :
    digits (n * 10 ^ k) = digits n ++ List.replicate k 0 := by
  induction k with
  | zero => simp
  | succ k ih =>
    have grown : 0 < n * 10 ^ k := Nat.mul_pos positive (Nat.pow_pos (by decide))
    rw [Nat.pow_succ, ← Nat.mul_assoc, digits_mul_ten grown, ih, List.append_assoc,
      ← List.replicate_succ']

end Folio.Decimal
