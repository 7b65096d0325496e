import Folio.Json.Scan
import Folio.Json.Write
import Folio.Proofs.Text.Wide
import Mathlib.Tactic.SplitIfs

/-! A string is read back from its escaped form, whatever text follows it. -/
namespace Folio.Json

open Text (hex hexDigit hexValue?)

section Units

theorem hexValue?_hexDigit (n : Nat) : hexValue? (hexDigit n) = some (n % 16) := by
  have digits : ∀ d < 16, hexValue? d.digitChar = some d := by decide
  exact digits (n % 16) (Nat.mod_lt n (by decide))

theorem fourHex?_hexDigit {n : Nat} (small : n < 0x10000) :
    fourHex? (hexDigit (n / 16 / 16 / 16)) (hexDigit (n / 16 / 16)) (hexDigit (n / 16))
      (hexDigit n) = some n := by
  simp only [fourHex?, hexValue?_hexDigit, Option.bind_eq_bind, Option.bind_some, Option.pure_def,
    Option.some.injEq]
  omega

/-- The code unit of a character outside the surrogates, with one more character behind it. -/
theorem unicodeEscape_hex {n : Nat} (small : n < 0xd800) (next : Char) (rest : Text) :
    unicodeEscape ('u' :: (hex 4 n ++ next :: rest)) = .ok (.char (Char.ofNat n), next :: rest) := by
  have digits : hex 4 n =
    [hexDigit (n / 16 / 16 / 16), hexDigit (n / 16 / 16), hexDigit (n / 16), hexDigit n] := rfl
  rw [digits]
  simp only [List.cons_append, List.nil_append, unicodeEscape,
    fourHex?_hexDigit (show n < 0x10000 by omega)]
  rw [if_neg (by omega), CodePoint.ofUnit, if_neg (by omega)]

end Units

section Strings

variable (opening : Text)

theorem readString_quote (rest : Text) : readString opening ('"' :: rest) = .ok ([], rest) := by
  rw [readString]

theorem readString_simple {e c : Char} (escape : simpleEscape? e = some c) (rest : Text) :
    readString opening ('\\' :: e :: rest) =
      (readString opening rest).map fun (t, rest) => (.char c :: t, rest) := by
  have other : e ≠ 'u' := by
    rintro rfl
    simp [simpleEscape?] at escape
  rw [readString]
  · simp only [escape]
  · exact other

theorem readString_unit {c : CodePoint} {tail rest : Text}
    (unit : unicodeEscape ('u' :: tail) = .ok (c, rest)) :
    readString opening ('\\' :: 'u' :: tail) =
      (readString opening rest).map fun (t, rest) => (c :: t, rest) := by
  rw [readString]
  split
  · simp_all
  · simp_all

theorem readString_plain {c : Char} (quote : c ≠ '"') (backslash : c ≠ '\\')
    (printable : ¬ c.toNat < 0x20) (rest : Text) :
    readString opening (c :: rest) =
      (readString opening rest).map fun (t, rest) => (.char c :: t, rest) := by
  rw [readString]
  · rw [if_neg printable]
  all_goals simp_all

theorem readString_escapeChar (c next : Char) (rest : Text) :
    readString opening (escapeChar c ++ next :: rest) =
      (readString opening (next :: rest)).map fun (t, rest) => (.char c :: t, rest) := by
  unfold escapeChar
  split_ifs with quote backslash feed return_ tab back form control
  · exact readString_simple opening (by rw [quote]; rfl) _
  · exact readString_simple opening (by rw [backslash]; rfl) _
  · exact readString_simple opening (by rw [feed]; rfl) _
  · exact readString_simple opening (by rw [return_]; rfl) _
  · exact readString_simple opening (by rw [tab]; rfl) _
  · exact readString_simple opening (by rw [back]; rfl) _
  · exact readString_simple opening (by rw [form]; rfl) _
  · -- only this escape is not read at the end of a text, so `next` has to be there
    have unit := unicodeEscape_hex (show c.toNat < 0xd800 by omega) next rest
    rw [Char.ofNat_toNat] at unit
    exact readString_unit opening unit
  · exact readString_plain opening quote backslash control _

/-- The closing quote is the character that a last escape needs behind it. -/
theorem readString_escaped (s rest : Text) :
    readString opening (s.flatMap escapeChar ++ '"' :: rest) = .ok (s.wide, rest) := by
  induction s with
  | nil => exact readString_quote opening rest
  | cons c s ih =>
    have escaped : ∃ next tail, s.flatMap escapeChar ++ '"' :: rest = next :: tail :=
      List.exists_cons_of_ne_nil (by simp)
    obtain ⟨next, tail, shape⟩ := escaped
    rw [List.flatMap_cons, List.append_assoc, shape, readString_escapeChar, ← shape, ih]
    rfl

end Strings

section Written

theorem replaced_escape (c : CodePoint) :
    WideText.replaced (escape c) = escapeChar c.replaced := by
  cases c with
  | char c => exact WideText.replaced_wide (escapeChar c)
  | half n => rfl

theorem replaced_writeString (s : WideText) :
    (writeString s).replaced = '"' :: (s.replaced.flatMap escapeChar ++ ['"']) := by
  have escaped : WideText.replaced (s.flatMap escape) = s.replaced.flatMap escapeChar := by
    induction s with
    | nil => rfl
    | cons c s ih =>
      rw [List.flatMap_cons, WideText.replaced_append, ih, replaced_escape]
      rfl
  rw [writeString, WideText.replaced_append, WideText.replaced_append, escaped]
  rfl

theorem whole_escape (c : CodePoint) : WideText.Whole (escape c) ↔ c.isHalf = false := by
  cases c with
  | char c => exact iff_of_true (WideText.whole_wide _) rfl
  | half n => exact List.forall_mem_singleton

theorem whole_writeString (s : WideText) : (writeString s).Whole ↔ s.Whole := by
  have escaped : WideText.Whole (s.flatMap escape) ↔ s.Whole := by
    simp only [WideText.Whole, List.mem_flatMap, forall_exists_index, and_imp,
      @forall_comm CodePoint]
    exact forall₂_congr fun c _ => whole_escape c
  simp only [writeString, WideText.whole_append_iff, WideText.whole_wide, escaped, true_and,
    and_true]

theorem return_not_mem_hex (width n : Nat) : '\r' ∉ hex width n := by
  have digits : ∀ d < 16, d.digitChar ≠ '\r' := by decide
  induction width generalizing n with
  | zero => simp [hex]
  | succ width ih =>
    have last : '\r' ≠ hexDigit n := (digits (n % 16) (Nat.mod_lt n (by decide))).symm
    simp [hex, ih, last]

theorem return_not_mem_writeString (s : WideText) : '\r' ∉ (writeString s).replaced := by
  have escaped : ∀ c, '\r' ∉ escapeChar c := by
    intro c
    unfold escapeChar
    split_ifs with quote backslash feed return_
    all_goals simp_all [return_not_mem_hex, eq_comm]
  simp [replaced_writeString, escaped]

end Written

end Folio.Json
