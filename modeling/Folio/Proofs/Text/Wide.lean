import Folio.Proofs.Text.Scan
import Folio.Proofs.Text.Utf8
import Folio.Text.Wide
import Mathlib.Data.List.DropRight

/-! Strings of code points against texts of characters: a string is a text, and has bytes, exactly if
it holds no half of a surrogate pair. -/
namespace Folio

namespace Text

@[simp] theorem wide_nil : Text.wide [] = [] := rfl

@[simp] theorem wide_cons (c : Char) (s : Text) : Text.wide (c :: s) = .char c :: s.wide := rfl

@[simp] theorem wide_append (s t : Text) : Text.wide (s ++ t) = s.wide ++ t.wide :=
  List.map_append

theorem wide_inj {s t : Text} : s.wide = t.wide ↔ s = t :=
  List.map_inj_right fun _ _ => CodePoint.char.inj

end Text

namespace WideText

/-- The string holds no half of a surrogate pair. -/
def Whole (s : WideText) : Prop := ∀ c ∈ s, c.isHalf = false

instance (s : WideText) : Decidable s.Whole := inferInstanceAs (Decidable (∀ c ∈ s, _))

section Whole

variable {s t : WideText}

@[simp] theorem whole_wide (t : Text) : t.wide.Whole :=
  List.forall_mem_map.mpr fun _ _ => rfl

theorem whole_append_iff : Whole (s ++ t) ↔ s.Whole ∧ t.Whole := List.forall_mem_append

@[simp] theorem replaced_wide (t : Text) : t.wide.replaced = t := by
  induction t with
  | nil => rfl
  | cons c t ih => exact congrArg (List.cons c) ih

@[simp] theorem replaced_append (s t : WideText) :
    replaced (s ++ t) = s.replaced ++ t.replaced := List.map_append

theorem wide_replaced (whole : s.Whole) : s.replaced.wide = s := by
  induction s with
  | nil => rfl
  | cons c s ih =>
    obtain ⟨own, later⟩ := List.forall_mem_cons.mp whole
    cases c with
    | char c => exact congrArg (List.cons _) (ih later)
    | half n => cases own

theorem text_wide (t : Text) : t.wide.text = .ok t := by
  induction t with
  | nil => rfl
  | cons c t ih => rw [Text.wide_cons, text, ih]

theorem text_of_whole (whole : s.Whole) : s.text = .ok s.replaced := by
  conv_lhs => rw [← wide_replaced whole]
  exact text_wide s.replaced

theorem text_of_not_whole (broken : ¬ s.Whole) : ∃ fault, s.text = .error fault := by
  induction s with
  | nil => exact absurd (List.forall_mem_nil _) broken
  | cons c s ih =>
    cases c with
    | half n => exact ⟨_, rfl⟩
    | char c =>
      have later : ¬ Whole s := fun whole => broken (List.forall_mem_cons.mpr ⟨rfl, whole⟩)
      obtain ⟨fault, found⟩ := ih later
      exact ⟨{ fault with offset := fault.offset + 1 }, by rw [text, found]⟩

theorem encode_of_whole (whole : s.Whole) : s.encode = .ok (Text.Utf8.encode s.replaced) := by
  rw [encode, text_of_whole whole]
  rfl

theorem encode_of_not_whole (broken : ¬ s.Whole) : ∃ fault, s.encode = .error fault := by
  obtain ⟨fault, found⟩ := text_of_not_whole broken
  exact ⟨fault, by rw [encode, found]; rfl⟩

end Whole

section Strip

theorem strip_strip (s : WideText) : s.strip.strip = s.strip := by
  have start : Text.Stops CodePoint.isBlank s.strip :=
    (Text.stops_dropWhile _ s).of_begins (List.rdropWhile_prefix (p := _) _)
  have ending : Text.dropEndWhile CodePoint.isBlank s.strip = s.strip :=
    List.rdropWhile_idempotent CodePoint.isBlank _
  rw [strip, Text.dropWhile_eq_self start, ending]

theorem dropWhile_wide (t : Text) :
    t.wide.dropWhile CodePoint.isBlank = Text.wide (t.dropWhile Text.isBlank) :=
  List.dropWhile_map

theorem strip_wide (t : Text) : t.wide.strip = t.strip.wide := by
  have ending (u : Text) :
      Text.dropEndWhile CodePoint.isBlank u.wide = Text.wide (Text.dropEndWhile Text.isBlank u) := by
    rw [Text.dropEndWhile, Text.wide, ← List.map_reverse]
    exact (congrArg List.reverse (dropWhile_wide u.reverse)).trans List.map_reverse.symm
  rw [strip, dropWhile_wide]
  exact ending _

end Strip

end WideText

end Folio
