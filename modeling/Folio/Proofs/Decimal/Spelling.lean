import Folio.Json.Scan
import Folio.Proofs.Decimal.Shortest

/-! Number texts by their parts. What a layout writes for a decimal is spelled from digits before
and behind a point and perhaps an exponent, and the parts can be read back from the text. -/
namespace Folio.Decimal

/-- An exponent: its sign and its digits. -/
structure Power where
  negative : Bool
  places : List Nat

/-- A number text without its sign. -/
structure Spelling where
  whole : List Nat
  fraction : List Nat
  power : Option Power

namespace Power

def text (p : Power) : Text := 'e' :: (if p.negative then '-' else '+') :: digitText p.places

def value (p : Power) : Int := if p.negative then -ofDigits p.places else ofDigits p.places

end Power

namespace Spelling

def pointText (fraction : List Nat) : Text :=
  if fraction = [] then [] else '.' :: digitText fraction

def powerText (power : Option Power) : Text := (power.map Power.text).getD []

def text (s : Spelling) : Text := digitText s.whole ++ pointText s.fraction ++ powerText s.power

def exponent (s : Spelling) : Int := (s.power.map Power.value).getD 0

def numeral (s : Spelling) (negative : Bool) : Numeral :=
  ⟨negative, s.whole, s.fraction, s.exponent⟩

structure Legible (s : Spelling) : Prop where
  nonempty : s.whole ≠ []
  whole_digits : AllDigits s.whole
  fraction_digits : AllDigits s.fraction
  power_digits : ∀ p ∈ s.power, p.places ≠ [] ∧ AllDigits p.places

/-- Nothing superfluous: no zero in front of the digits or at the end behind a point, no point
without digits behind it, and an exponent only after one digit and without padding. -/
structure Canonical (s : Spelling) : Prop extends Legible s where
  leading : s.whole.head? = some 0 → s.whole = [0]
  last : s.fraction.getLast? ≠ some 0
  unpadded : ∀ p ∈ s.power, s.whole.length = 1 ∧ s.whole ≠ [0] ∧ p.places.head? ≠ some 0

end Spelling

namespace Numeral

/-- The digits on both sides of the point. -/
def places (n : Numeral) : List Nat := n.whole ++ n.fraction

def value (n : Numeral) : ℚ :=
  (if n.negative then -1 else 1) * (ofDigits n.places * 10 ^ (n.exponent - n.fraction.length))

def readUnsigned? (negative : Bool) (s : Text) : Option Numeral :=
  match Json.readDigits s with
  | ([], _) => none
  | (whole, rest) =>
    let (fraction, rest) := (Json.readFraction? rest).getD ([], rest)
    let (exponent, rest) := (Json.readExponent? rest).getD (0, rest)
    if rest = [] then some ⟨negative, whole, fraction, exponent⟩ else none

/-- Reads a text that is a number and nothing else. -/
def read? : Text → Option Numeral
  | '-' :: s => readUnsigned? true s
  | s => readUnsigned? false s

end Numeral

section Reading

open Json (readDigits readFraction? readExponent? asciiDigit?)

theorem asciiDigit?_digitChar {d : Nat} (digit : d < 10) : asciiDigit? d.digitChar = some d := by
  have all : ∀ d < 10, asciiDigit? d.digitChar = some d := by decide
  exact all d digit

theorem readDigits_digitText {ds : List Nat} {rest : Text} (all : AllDigits ds)
    (ends : readDigits rest = ([], rest)) : readDigits (digitText ds ++ rest) = (ds, rest) := by
  induction ds with
  | nil => exact ends
  | cons d ds ih =>
    have behind := ih fun d member => all d (List.mem_cons_of_mem _ member)
    change readDigits (d.digitChar :: (digitText ds ++ rest)) = _
    simp only [readDigits, asciiDigit?_digitChar (all d List.mem_cons_self), behind]

theorem readDigits_powerText (power : Option Power) :
    readDigits (Spelling.powerText power) = ([], Spelling.powerText power) := by
  cases power <;> rfl

theorem readDigits_pointText (fraction : List Nat) (power : Option Power) :
    readDigits (Spelling.pointText fraction ++ Spelling.powerText power) =
      ([], Spelling.pointText fraction ++ Spelling.powerText power) := by
  unfold Spelling.pointText
  split
  · exact readDigits_powerText power
  · rfl

theorem readFraction?_pointText {fraction : List Nat} (all : AllDigits fraction)
    (power : Option Power) :
    (readFraction? (Spelling.pointText fraction ++ Spelling.powerText power)).getD
        ([], Spelling.pointText fraction ++ Spelling.powerText power) =
      (fraction, Spelling.powerText power) := by
  cases fraction with
  | nil => cases power <;> rfl
  | cons d fraction =>
    have digits := readDigits_digitText all (readDigits_powerText power)
    change (readFraction? ('.' :: (digitText (d :: fraction) ++ _))).getD _ = _
    simp only [readFraction?, digits, Option.getD_some]

theorem readExponent?_powerText {power : Option Power}
    (legible : ∀ p ∈ power, p.places ≠ [] ∧ AllDigits p.places) :
    (readExponent? (Spelling.powerText power)).getD (0, Spelling.powerText power) =
      ((power.map Power.value).getD 0, []) := by
  cases power with
  | none => rfl
  | some p =>
    obtain ⟨negative, places⟩ := p
    obtain ⟨nonempty, all⟩ := legible _ rfl
    have digits : readDigits (digitText places ++ []) = (places, []) := readDigits_digitText all rfl
    rw [List.append_nil] at digits
    cases places with
    | nil => exact absurd rfl nonempty
    | cons d places =>
      cases negative with
      | false => simp [Spelling.powerText, Power.text, Power.value, readExponent?, digits]
      | true => simp [Spelling.powerText, Power.text, Power.value, readExponent?, digits]

theorem readUnsigned?_text {s : Spelling} (legible : s.Legible) (negative : Bool) :
    Numeral.readUnsigned? negative s.text = some (s.numeral negative) := by
  have whole := readDigits_digitText legible.whole_digits (readDigits_pointText s.fraction s.power)
  have fraction := readFraction?_pointText legible.fraction_digits s.power
  have exponent := readExponent?_powerText legible.power_digits
  rw [Spelling.text, List.append_assoc, Numeral.readUnsigned?, whole]
  split
  · rename_i empty
    exact absurd (congrArg Prod.fst empty) legible.nonempty
  · rename_i parts
    cases parts
    simp only [fraction, exponent, if_true]
    rfl

/-- The sign of a text is the sign of the number; digits do not begin with one. -/
theorem read?_text {s : Spelling} (legible : s.Legible) (negative : Bool) :
    Numeral.read? ((if negative then ['-'] else []) ++ s.text) =
      some (s.numeral negative) := by
  cases negative with
  | true => exact readUnsigned?_text legible true
  | false =>
    rw [← readUnsigned?_text legible false]
    change Numeral.read? s.text = _
    unfold Numeral.read?
    split
    · rename_i rest minus
      exfalso
      obtain ⟨d, whole, split⟩ := List.exists_cons_of_ne_nil legible.nonempty
      have digit : d < 10 := legible.whole_digits d (by simp [split])
      have first : d.digitChar = '-' := by
        rw [Spelling.text, split] at minus
        exact (List.cons.inj minus).1
      have none : ∀ d < 10, Nat.digitChar d ≠ '-' := by decide
      exact none d digit first
    · rfl

end Reading

namespace Spelling

def value (s : Spelling) : ℚ :=
  ofDigits (s.whole ++ s.fraction) * 10 ^ (s.exponent - s.fraction.length)

theorem mem_text_iff {s : Spelling} (legible : s.Legible) : 'e' ∈ s.text ↔ s.power ≠ none := by
  have digits {ds : List Nat} (all : AllDigits ds) : 'e' ∉ digitText ds := by
    intro member
    obtain ⟨d, inside, letter⟩ := List.mem_map.mp member
    have none : ∀ d < 10, Nat.digitChar d ≠ 'e' := by decide
    exact none d (all d inside) letter
  have front : 'e' ∉ digitText s.whole := digits legible.whole_digits
  have middle : 'e' ∉ pointText s.fraction := by
    unfold pointText
    split
    · exact List.not_mem_nil
    · simpa using digits legible.fraction_digits
  rw [text, List.mem_append, List.mem_append]
  cases s.power with
  | none => simp [front, middle, powerText]
  | some p => simp [powerText, Power.text]

end Spelling

namespace Layout

/-- The parts of positional notation. -/
def places (layout : Layout) (s : Scientific) : Spelling :=
  if s.point ≤ 0 then ⟨[0], List.replicate (-s.point).toNat 0 ++ s.digits, none⟩
  else if s.digits.length ≤ s.point.toNat then
    ⟨s.digits ++ List.replicate (s.point.toNat - s.digits.length) 0,
      List.replicate (if layout.keepsPoint then 1 else 0) 0, none⟩
  else ⟨s.digits.take s.point.toNat, s.digits.drop s.point.toNat, none⟩

/-- The parts of a number text with an exponent. -/
def powered (layout : Layout) (s : Scientific) : Spelling :=
  let power := s.point - 1
  let size := digits power.natAbs
  ⟨s.digits.take 1, s.digits.drop 1,
    some ⟨power < 0, List.replicate (layout.exponentWidth - size.length) 0 ++ size⟩⟩

def spelling (layout : Layout) (s : Scientific) : Spelling :=
  if layout.least ≤ s.point - 1 ∧ s.point - 1 < layout.limit then layout.places s
  else layout.powered s

variable (layout : Layout) {s : Scientific}

theorem digitText_replicate (n : Nat) : digitText (List.replicate n 0) = zeros n := by
  simp [digitText, zeros]

theorem digitText_append (front back : List Nat) :
    digitText (front ++ back) = digitText front ++ digitText back := List.map_append

theorem pointText_of_ne_nil {fraction : List Nat} (nonempty : fraction ≠ []) :
    Spelling.pointText fraction = '.' :: digitText fraction := if_neg nonempty

theorem places_text (normal : s.Normal) : (layout.places s).text = layout.positional s := by
  unfold places positional
  by_cases small : s.point ≤ 0
  · rw [if_pos small, if_pos small, Spelling.text, pointText_of_ne_nil (by simp [normal.nonempty]),
      digitText_append, digitText_replicate]
    exact List.append_nil _
  · rw [if_neg small, if_neg small]
    by_cases filled : s.digits.length ≤ s.point.toNat
    · rw [if_pos filled]
      simp only [if_pos filled, Spelling.text, digitText_append, digitText_replicate]
      cases layout.keepsPoint <;> exact List.append_nil _
    · have behind : s.digits.drop s.point.toNat ≠ [] := by
        intro none
        exact filled (List.drop_eq_nil_iff.mp none)
      rw [if_neg filled]
      simp only [if_neg filled, Spelling.text, pointText_of_ne_nil behind, List.append_assoc]
      exact congrArg _ (List.append_nil _)

theorem powered_text (normal : s.Normal) : (layout.powered s).text = layout.exponential s := by
  obtain ⟨d, more, split⟩ := List.exists_cons_of_ne_nil normal.nonempty
  have size : (natText (s.point - 1).natAbs).length = (digits (s.point - 1).natAbs).length :=
    List.length_map _
  simp only [powered, exponential, Spelling.text, Spelling.powerText, Power.text, Option.map_some,
    Option.getD_some, digitText_append, digitText_replicate, decide_eq_true_eq, size, split]
  cases more with
  | nil => rfl
  | cons d' more => simp [Spelling.pointText, digitText, natText]

theorem spelling_text (normal : s.Normal) : (layout.spelling s).text = layout.decimal s := by
  unfold spelling decimal
  split
  · exact places_text layout normal
  · exact powered_text layout normal

theorem places_legible (normal : s.Normal) : (layout.places s).Legible := by
  unfold places
  split
  · refine ⟨List.cons_ne_nil _ _, allDigits_zeros 1, ?_, by simp⟩
    exact (allDigits_zeros _).append normal.all
  · split
    · refine ⟨by simp [normal.nonempty], ?_, allDigits_zeros _, by simp⟩
      exact normal.all.append (allDigits_zeros _)
    · rename_i large filled
      constructor
      · intro none
        rcases List.take_eq_nil_iff.mp none with zero | empty
        · omega
        · exact normal.nonempty empty
      · exact fun d member => normal.all d (List.mem_of_mem_take member)
      · exact fun d member => normal.all d (List.mem_of_mem_drop member)
      · simp

theorem powered_legible (normal : s.Normal) : (layout.powered s).Legible := by
  constructor
  · intro none
    rcases List.take_eq_nil_iff.mp none with zero | empty
    · cases zero
    · exact normal.nonempty empty
  · exact fun d member => normal.all d (List.mem_of_mem_take member)
  · exact fun d member => normal.all d (List.mem_of_mem_drop member)
  · intro p same
    cases same
    refine ⟨?_, (allDigits_zeros _).append (allDigits_digits _)⟩
    simp [digits_ne_nil]

theorem spelling_legible (normal : s.Normal) : (layout.spelling s).Legible := by
  unfold spelling
  split
  · exact places_legible layout normal
  · exact powered_legible layout normal

theorem places_value : (layout.places s).value = s.value := by
  unfold places Scientific.value
  split
  · rename_i small
    have zeros : [0] ++ (List.replicate (-s.point).toNat 0 ++ s.digits) =
        List.replicate ((-s.point).toNat + 1) 0 ++ s.digits := rfl
    have place : (0 : Int) - (List.replicate (-s.point).toNat 0 ++ s.digits).length =
        s.point - s.digits.length := by
      rw [List.length_append, List.length_replicate]
      omega
    change (ofDigits ([0] ++ (List.replicate (-s.point).toNat 0 ++ s.digits)) : ℚ) *
      10 ^ ((0 : Int) - (List.replicate (-s.point).toNat 0 ++ s.digits).length) = _
    rw [zeros, ofDigits_zeros_append, place]
  · split
    · rename_i large filled
      generalize (if layout.keepsPoint then 1 else 0) = kept
      change (ofDigits (s.digits ++ List.replicate (s.point.toNat - s.digits.length) 0 ++
        List.replicate kept 0) : ℚ) * 10 ^ ((0 : Int) - (List.replicate kept 0).length) = _
      have place : s.point - s.digits.length =
          ((s.point.toNat - s.digits.length + kept : Nat) : Int) + (0 - kept) := by omega
      rw [ofDigits_append_zeros, ofDigits_append_zeros, List.length_replicate, place,
        zpow_add₀ (by norm_num), zpow_natCast, pow_add]
      push_cast
      ring
    · rename_i large beyond
      change (ofDigits (s.digits.take s.point.toNat ++ s.digits.drop s.point.toNat) : ℚ) *
        10 ^ ((0 : Int) - (s.digits.drop s.point.toNat).length) = _
      have place : (0 : Int) - (s.digits.drop s.point.toNat).length =
          s.point - s.digits.length := by
        rw [List.length_drop]
        omega
      rw [List.take_append_drop, place]

theorem powered_exponent : (layout.powered s).exponent = s.point - 1 := by
  have places : ofDigits (List.replicate (layout.exponentWidth -
      (digits (s.point - 1).natAbs).length) 0 ++ digits (s.point - 1).natAbs) =
        (s.point - 1).natAbs := by
    rw [ofDigits_zeros_append, ofDigits_digits]
  simp only [powered, Spelling.exponent, Power.value, Option.map_some, Option.getD_some, places,
    decide_eq_true_eq]
  split <;> omega

theorem powered_value (normal : s.Normal) : (layout.powered s).value = s.value := by
  have length : 0 < s.digits.length := List.length_pos_iff.mpr normal.nonempty
  have place : s.point - 1 - (s.digits.drop 1).length = s.point - s.digits.length := by
    rw [List.length_drop]
    omega
  rw [Spelling.value, powered_exponent layout, Scientific.value]
  change (ofDigits (s.digits.take 1 ++ s.digits.drop 1) : ℚ) *
    10 ^ (s.point - 1 - (s.digits.drop 1).length) = _
  rw [List.take_append_drop, place]

theorem spelling_value (normal : s.Normal) : (layout.spelling s).value = s.value := by
  unfold spelling
  split
  · exact places_value layout
  · exact powered_value layout normal

theorem places_canonical (normal : s.Normal) (unpointed : layout.keepsPoint = false) :
    (layout.places s).Canonical := by
  refine ⟨places_legible layout normal, ?_, ?_, ?_⟩
  · unfold places
    split
    · exact fun _ => rfl
    · split
      · intro zero
        rw [head?_append_of_ne_nil normal.nonempty] at zero
        exact absurd zero normal.leading
      · rename_i large beyond
        intro zero
        rw [List.head?_take, if_neg (by omega)] at zero
        exact absurd zero normal.leading
  · unfold places
    split
    · rw [List.getLast?_append, List.getLast?_eq_some_getLast normal.nonempty, Option.some_or,
        ← List.getLast?_eq_some_getLast normal.nonempty]
      exact normal.last
    · split
      · simp [unpointed]
      · rename_i large beyond
        rw [List.getLast?_drop, if_neg (by omega)]
        exact normal.last
  · unfold places
    split
    · simp
    · split <;> simp

theorem powered_canonical (normal : s.Normal) (unpadded : layout.exponentWidth ≤ 1)
    (raised : s.point ≠ 1) : (layout.powered s).Canonical := by
  obtain ⟨d, more, split⟩ := List.exists_cons_of_ne_nil normal.nonempty
  have nonzero : d ≠ 0 := by
    rintro rfl
    exact normal.leading (by rw [split]; rfl)
  have whole : (layout.powered s).whole = [d] := by
    change s.digits.take 1 = [d]
    rw [split]
    rfl
  refine ⟨powered_legible layout normal, ?_, ?_, ?_⟩
  · rw [whole]
    intro zero
    exact absurd (Option.some.inj zero) nonzero
  · change (s.digits.drop 1).getLast? ≠ some 0
    rw [List.getLast?_drop]
    split
    · simp
    · exact normal.last
  · intro p same
    cases same
    have length : 0 < (digits (s.point - 1).natAbs).length :=
      List.length_pos_iff.mpr (digits_ne_nil _)
    have none : layout.exponentWidth - (digits (s.point - 1).natAbs).length = 0 := by omega
    rw [whole]
    refine ⟨rfl, by simpa using nonzero, ?_⟩
    change (List.replicate (layout.exponentWidth - (digits (s.point - 1).natAbs).length) 0 ++
      digits (s.point - 1).natAbs).head? ≠ some 0
    rw [none]
    apply head?_digits
    omega

theorem spelling_canonical (normal : s.Normal) (unpointed : layout.keepsPoint = false)
    (unpadded : layout.exponentWidth ≤ 1) (covers : layout.least ≤ 0 ∧ 0 < layout.limit) :
    (layout.spelling s).Canonical := by
  unfold spelling
  split
  · exact places_canonical layout normal unpointed
  · apply powered_canonical layout normal unpadded
    omega

theorem spelling_power_iff :
    (layout.spelling s).power = none ↔ layout.least ≤ s.point - 1 ∧ s.point - 1 < layout.limit := by
  unfold spelling
  split
  · rename_i inside
    refine iff_of_true ?_ inside
    unfold places
    split
    · rfl
    · split <;> rfl
  · rename_i outside
    refine iff_of_false ?_ outside
    simp [powered]

end Layout

end Folio.Decimal
