import Folio.Proofs.Decimal.Reading
import Folio.Value.Display

/-! The text a document shows for a number. It names the same rational number as the literal text
does, from which it can be made without knowing the number, and it tells numbers apart just as well;
whole numbers look like integers. -/
namespace Folio.Decimal.Layout

open Binary64 (Fits exact IsFinite)

variable {m : Nat} {e : Int}

section Notation

theorem display_plain_iff {s : Scientific} (normal : s.Normal) :
    (display.spelling s).power = none ↔
      (10 : ℚ) ^ (-6 : Int) ≤ s.value ∧ s.value < 10 ^ (21 : Int) := by
  rw [spelling_power_iff, normal.pow_le_iff, ← not_le (a := (10 : ℚ) ^ (21 : Int)),
    normal.pow_le_iff]
  change (-6 : Int) ≤ s.point - 1 ∧ s.point - 1 < (21 : Int) ↔ _
  omega

/-- The number nearest to 10⁻⁶ is less than it, and is written as it. -/
theorem shortest_millionth :
    Binary64.ofDecimal false [1] (-6) = .finite false 4722366482869645 (-72) ∧
      Scientific.shortest 4722366482869645 (-72) = .ofGrid 10 (-7) := by
  refine ⟨by decide +kernel, ?_⟩
  apply Scientific.shortest_of_spaced (by constructor <;> decide) (by decide)
  · norm_num [exact]
  · norm_num [exact]
  · apply Binary64.RoundsTo.of_between
    · norm_num [Binary64.lower, Binary64.lowQuarters, Binary64.quarters]
    · norm_num [Binary64.upper, Binary64.quarters]
  · norm_num

theorem shortest_limit :
    Binary64.ofDecimal false [1] 21 = .finite false 7629394531250000 17 ∧
      Scientific.shortest 7629394531250000 17 = .ofGrid 1 21 := by
  refine ⟨by decide +kernel, ?_⟩
  apply Scientific.shortest_of_spaced (by constructor <;> decide) (by decide)
  · norm_num [exact]
  · norm_num [exact]
  · have same : exact 7629394531250000 17 = (1 : Nat) * 10 ^ (21 : Int) := by norm_num [exact]
    rw [← same]
    exact Binary64.roundsTo_exact (by decide) 17
  · norm_num

/-- Plain notation covers the same numbers whether they are compared as they are or as they are
written. -/
theorem plain_range_iff (fits : Fits m e) (nonzero : 0 < m) :
    (10 : ℚ) ^ (-6 : Int) ≤ (Scientific.shortest m e).value ∧
        (Scientific.shortest m e).value < 10 ^ (21 : Int) ↔
      (Binary64.ofDecimal false [1] (-6)).value ≤ exact m e ∧
        exact m e < (Binary64.ofDecimal false [1] 21).value := by
  obtain ⟨least, millionth⟩ := shortest_millionth
  obtain ⟨most, limit⟩ := shortest_limit
  have low := Scientific.shortest_value_le_iff (Binary64.ofDecimal_fits least).1 fits (by decide)
    nonzero
  have high := Scientific.shortest_value_le_iff (Binary64.ofDecimal_fits most).1 fits (by decide)
    nonzero
  rw [millionth, Scientific.ofGrid_value] at low
  rw [limit, Scientific.ofGrid_value] at high
  have tens : ((10 : Nat) : ℚ) * 10 ^ (-7 : Int) = 10 ^ (-6 : Int) := by norm_num
  have one : ((1 : Nat) : ℚ) * 10 ^ (21 : Int) = 10 ^ (21 : Int) := by norm_num
  rw [tens] at low
  rw [one] at high
  rw [least, most, ← not_le, high, low, not_le]
  simp [Binary64.value]

end Notation

section Whole

theorem exponent_le_zero_of_whole {n : Nat} (fits : Fits m e) (small : n < 2 ^ 53)
    (same : exact m e = n) : e ≤ 0 := by
  by_contra positive
  have wide : 2 ^ 52 ≤ m := by
    apply fits.wide
    unfold Binary64.leastExponent
    omega
  have whole : (n : ℚ) = exact n 0 := by simp [exact]
  have doubled : Binary64.quarters (2 * (4 * m)) 0 ≤ Binary64.quarters (4 * m) e :=
    Binary64.quarters_le_of_lt (not_le.mp positive)
  rw [← Binary64.exact_eq_quarters, same, whole, Binary64.exact_eq_quarters,
    Binary64.quarters_le_iff] at doubled
  omega

/-- A whole number has no nearer decimal than itself. -/
theorem shortest_whole {n : Nat} (fits : Fits m e) (positive : 0 < n) (small : n < 2 ^ 53)
    (same : exact m e = n) : Scientific.shortest m e = .ofGrid n 0 := by
  have nonzero : 0 < m := by
    apply Nat.pos_of_ne_zero
    rintro rfl
    have zero : (n : ℚ) = 0 := by simp [← same, exact]
    have zero : n = 0 := by exact_mod_cast zero
    omega
  have unit : (2 : ℚ) ^ e ≤ 1 :=
    zpow_le_one_of_nonpos₀ (by norm_num) (exponent_le_zero_of_whole fits small same)
  have low : (1 : ℚ) ≤ n := by exact_mod_cast positive
  have high : (n : ℚ) < 2 ^ 53 := by exact_mod_cast small
  apply Scientific.shortest_eq_ofGrid fits nonzero
  · rw [same, zpow_zero]
    exact low
  · rw [same]
    apply lt_trans high
    norm_num
  · have point : (n : ℚ) * 10 ^ (0 : Int) = exact m e := by rw [same, zpow_zero, mul_one]
    rw [point]
    exact Binary64.roundsTo_exact nonzero e
  · intro y rounds
    have close := rounds.half
    rw [same, zpow_zero, mul_one] at close
    have above : (n : ℚ) < y + 1 := by linarith
    have below : (y : ℚ) < n + 1 := by linarith
    have above : n < y + 1 := by exact_mod_cast above
    have below : y < n + 1 := by exact_mod_cast below
    omega

theorem positional_ofGrid (layout : Layout) (n : Nat) (unpointed : layout.keepsPoint = false) :
    layout.positional (.ofGrid n 0) = natText n := by
  obtain ⟨k, whole⟩ := trimmed_zeros (digits n)
  have length := congrArg List.length whole
  rw [List.length_append, List.length_replicate] at length
  have some : 0 < (digits n).length := List.length_pos_iff.mpr (digits_ne_nil n)
  have point : (Scientific.ofGrid n 0).point = (digits n).length := Int.add_zero _
  have kept : (Scientific.ofGrid n 0).digits = trimmed (digits n) := rfl
  have fill : (digits n).length - (trimmed (digits n)).length = k := by omega
  rw [positional, point, kept, if_neg (by omega)]
  simp only [Int.toNat_natCast, unpointed, fill]
  rw [if_pos (by omega), natText, if_neg (by decide), List.append_nil, ← digitText_replicate,
    ← digitText_append, ← whole]

theorem display_whole {n : Nat} (fits : Fits m e) (positive : 0 < n) (small : n < 2 ^ 53)
    (same : exact m e = n) : display.decimal (.shortest m e) = natText n := by
  have length : (digits n).length - 1 < 16 := by
    have bound : 10 ^ ((digits n).length - 1) < 10 ^ 16 := by
      apply lt_of_le_of_lt (pow_length_digits_le positive)
      omega
    exact (Nat.pow_lt_pow_iff_right (by decide)).mp bound
  have some : 0 < (digits n).length := List.length_pos_iff.mpr (digits_ne_nil n)
  have point : (Scientific.ofGrid n 0).point = (digits n).length := Int.add_zero _
  rw [shortest_whole fits positive small same, decimal, if_pos]
  · exact positional_ofGrid display n rfl
  · rw [point]
    change (-6 : Int) ≤ _ ∧ _ < (21 : Int)
    omega

end Whole

/-- What a document shows for a number other than zero, beside the literal text of its absolute
value. The number that the literal text names decides on plain notation with the limits 10⁻⁶ and
10²¹, and the number itself does so with the numbers nearest to them. -/
structure Restates (x : Binary64) (literal : Numeral) (s : Spelling) : Prop where
  read : Numeral.read? (Layout.literal.write x.abs) = some literal
  remade : display.write x = signText (x.value < 0) ++ display.decimal literal.decimal
  spelled : display.write x = signText (x.value < 0) ++ s.text
  shown : Numeral.read? (display.write x) = some (s.numeral (x.value < 0))
  reads_back : (s.numeral (x.value < 0)).toBinary64 = x
  positive : 0 < literal.value
  same : (s.numeral (x.value < 0)).value = if x.value < 0 then -literal.value else literal.value
  canonical : s.Canonical
  powered : 'e' ∈ display.write x ↔ s.power ≠ none
  plain : s.power = none ↔
    (10 : ℚ) ^ (-6 : Int) ≤ literal.value ∧ literal.value < 10 ^ (21 : Int)
  plain_number : s.power = none ↔
    (Binary64.ofDecimal false [1] (-6)).value ≤ |x.value| ∧
      |x.value| < (Binary64.ofDecimal false [1] 21).value

section Faithful

variable {x y : Binary64}

theorem display_zero (negative : Bool) : display.write (.zero negative) = ['0'] := by
  cases negative <;> rfl

theorem display_ne_zero_text (finite : x.IsFinite) (nonzero : x.value ≠ 0) :
    display.write x ≠ ['0'] := by
  intro same
  obtain ⟨n, read, back⟩ := write_reads_back display finite nonzero
  have zero : Numeral.read? ['0'] = some ⟨false, [0], [], 0⟩ := rfl
  rw [same, zero] at read
  cases read
  apply nonzero
  rw [← back]
  exact Binary64.value_eq_zero_iff.mpr rfl

/-- Only the two zeros are shown alike. -/
theorem eq_of_display_eq (finite : x.IsFinite) (finite' : y.IsFinite)
    (same : display.write x = display.write y) : x = y ∨ x.value = 0 ∧ y.value = 0 := by
  by_cases zero : x.value = 0
  · by_cases zero' : y.value = 0
    · exact Or.inr ⟨zero, zero'⟩
    · obtain ⟨negative, rfl⟩ := Binary64.eq_zero_of_value finite zero
      rw [display_zero] at same
      exact absurd same.symm (display_ne_zero_text finite' zero')
  · by_cases zero' : y.value = 0
    · obtain ⟨negative, rfl⟩ := Binary64.eq_zero_of_value finite' zero'
      rw [display_zero] at same
      exact absurd same (display_ne_zero_text finite zero)
    · obtain ⟨n, read, back⟩ := write_reads_back display finite zero
      obtain ⟨n', read', back'⟩ := write_reads_back display finite' zero'
      rw [same, read'] at read
      cases read
      exact Or.inl (back.symm.trans back')

theorem display_of_whole {n : Int} (finite : x.IsFinite) (small : n.natAbs < 2 ^ 53)
    (same : x.value = n) : display.write x = Value.intDisplay n := by
  have shown : Value.intDisplay n = intText n := if_pos small
  rw [shown]
  by_cases zero : x.value = 0
  · obtain ⟨negative, rfl⟩ := Binary64.eq_zero_of_value finite zero
    rw [zero] at same
    have none : n = 0 := by exact_mod_cast same.symm
    rw [display_zero, none]
    change _ = natText 0
    rw [natText, digits_of_lt (by decide)]
    rfl
  · obtain ⟨negative, m, e, rfl, fits, -, nonzero⟩ := Binary64.eq_finite_of_value finite zero
    have size : exact m e = n.natAbs := by
      rw [← Binary64.abs_value negative, same, Nat.cast_natAbs, Int.cast_abs]
    have positive : 0 < n.natAbs := by
      have some := Binary64.exact_pos nonzero e
      rw [size] at some
      exact_mod_cast some
    have sign : Binary64.value (.finite negative m e) < 0 ↔ negative = true :=
      Binary64.value_neg_iff nonzero
    rw [same, Int.cast_lt_zero] at sign
    rw [write_finite display negative nonzero, display_whole fits positive small size]
    cases n with
    | ofNat n =>
      have plain : negative = false := by
        rw [← Bool.not_eq_true, ← sign]
        exact not_lt.mpr (Int.natCast_nonneg n)
      rw [plain]
      rfl
    | negSucc n =>
      rw [sign.mp (Int.negSucc_lt_zero n)]
      rfl

theorem display_restates (finite : x.IsFinite) (nonzero : x.value ≠ 0) :
    ∃ literal s, Restates x literal s := by
  obtain ⟨negative, m, e, rfl, fits, inside, some⟩ := Binary64.eq_finite_of_value finite nonzero
  obtain ⟨literal, read, unsigned, decimal, -⟩ :=
    read?_write Layout.literal false fits inside some
  obtain ⟨shown, read', -, -, back⟩ := read?_write display negative fits inside some
  obtain ⟨normal, rounds⟩ := Scientific.shortest_rounds fits some
  have legible := spelling_legible display normal
  have sign : decide (Binary64.value (.finite negative m e) < 0) = negative := by
    rw [Bool.eq_iff_iff, decide_eq_true_iff]
    exact Binary64.value_neg_iff some
  have size : literal.value = (Scientific.shortest m e).value := by
    rw [Numeral.value_eq, unsigned, decimal]
    exact one_mul _
  have spelled : display.write (.finite negative m e) =
      signText negative ++ (display.spelling (.shortest m e)).text := by
    rw [write_finite display negative some, spelling_text display normal]
  have named : Numeral.read? (display.write (.finite negative m e)) =
      Option.some ((display.spelling (.shortest m e)).numeral negative) := by
    rw [spelled]
    exact read?_text legible negative
  have plain : (display.spelling (.shortest m e)).power = none ↔
      (10 : ℚ) ^ (-6 : Int) ≤ literal.value ∧ literal.value < 10 ^ (21 : Int) := by
    rw [size, display_plain_iff normal]
  refine ⟨literal, display.spelling (.shortest m e), ?_⟩
  constructor
  · exact read
  · rw [sign, decimal]
    exact write_finite display negative some
  · rw [sign]
    exact spelled
  · rw [sign]
    exact named
  · rw [read'] at named
    cases named
    rw [sign]
    exact back
  · rw [size]
    exact rounds.positive some
  · rw [sign, Numeral.value, size, ← spelling_value display normal]
    simp only [Binary64.value_neg_iff some]
    change (if negative then -1 else 1) * (display.spelling (.shortest m e)).value = _
    split <;> ring
  · exact spelling_canonical display normal rfl (by decide) (by decide)
  · rw [spelled, List.mem_append, ← Spelling.mem_text_iff legible]
    cases negative <;> simp [signText]
  · exact plain
  · rw [plain, size, Binary64.abs_value]
    exact plain_range_iff fits some

/-- Every finite number is shown as what its literal text names, two numbers are shown alike only if
both are zero, and a whole number below 2⁵³ is shown as the integer. -/
theorem display_faithful (finite : x.IsFinite) :
    (x.value ≠ 0 → ∃ literal s, Restates x literal s) ∧
    (∀ y : Binary64, y.IsFinite → Layout.literal.write x ≠ Layout.literal.write y →
      (display.write x = display.write y ↔ x.value = 0 ∧ y.value = 0)) ∧
    (∀ n : Int, n.natAbs < 2 ^ 53 → x.value = n → display.write x = Value.intDisplay n) := by
  refine ⟨display_restates finite, ?_, fun n small same => display_of_whole finite small same⟩
  intro y finite' different
  constructor
  · intro same
    rcases eq_of_display_eq finite finite' same with rfl | zeros
    · exact absurd rfl different
    · exact zeros
  · rintro ⟨zero, zero'⟩
    obtain ⟨negative, rfl⟩ := Binary64.eq_zero_of_value finite zero
    obtain ⟨negative', rfl⟩ := Binary64.eq_zero_of_value finite' zero'
    rw [display_zero, display_zero]

/-- Twelve is shown as the integer; the two zeros, told apart by their literal texts, are not told
apart in a document. -/
theorem display_faithful_twelve :
    let twelve : Binary64 := .finite false 6755399441055744 (-49)
    (twelve.IsFinite ∧ twelve.value = (12 : Int)) ∧ (∃ literal s, Restates twelve literal s) ∧
      display.write twelve = ['1', '2'] ∧
      Layout.literal.write (.zero false) ≠ Layout.literal.write (.zero true) ∧
      display.write (.zero false) = display.write (.zero true) := by
  intro twelve
  have finite : twelve.IsFinite := ⟨by constructor <;> decide, by decide⟩
  have value : twelve.value = (12 : Int) := by norm_num [twelve, Binary64.value, exact]
  have zero (negative : Bool) : (Binary64.zero negative).IsFinite :=
    ⟨⟨by decide, le_refl _, Or.inl rfl⟩, by decide⟩
  have none (negative : Bool) : (Binary64.zero negative).value = 0 := by
    simp [Binary64.zero, Binary64.value, exact]
  have apart : Layout.literal.write (.zero false) ≠ Layout.literal.write (.zero true) := by decide
  obtain ⟨restates, -, whole⟩ := display_faithful finite
  obtain ⟨-, zeros, -⟩ := display_faithful (zero false)
  refine ⟨⟨finite, value⟩, restates ?_, ?_, apart, ?_⟩
  · rw [value]
    norm_num
  · rw [whole 12 (by decide) value]
    change natText 12 = ['1', '2']
    rw [natText, digits_of_le (by decide), digits_of_lt (by decide)]
    rfl
  · exact (zeros _ (zero true) apart).mpr ⟨none false, none true⟩

end Faithful

end Folio.Decimal.Layout
