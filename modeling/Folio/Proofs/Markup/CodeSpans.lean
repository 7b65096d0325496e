import Folio.Proofs.Markup.LinkAddress

/-! Text around a code span. A span is cut out before anything else is looked for, so the text before
it, the code in it and the text behind it are rendered as if each stood alone. -/
namespace Folio.Markup

open Text (Piece Stops run?_eq_some_iff dropPrefix?_eq_some forall_bne_iff)

section Spans

variable {a s code r : Text}

theorem codeSpans_read_iff : codeSpans.read? s = some (code, r) ↔
    s = backtick :: (code ++ backtick :: r) ∧ code ≠ [] ∧ backtick ∉ code := by
  simp only [codeSpans, Option.bind_eq_bind, Option.bind_eq_some_iff, Option.pure_def, Prod.exists,
    dropPrefix?_eq_some, run?_eq_some_iff, forall_bne_iff]
  constructor
  · rintro ⟨_, rfl, c, _, ⟨rfl, nonempty, closed, _⟩, _, rfl, out⟩
    cases out
    exact ⟨rfl, nonempty, closed⟩
  · rintro ⟨rfl, nonempty, closed⟩
    have stops : Stops (fun c => c != backtick) (backtick :: r) := Text.stops_cons.mpr (by decide)
    exact ⟨_, rfl, code, _, ⟨rfl, nonempty, closed, stops⟩, r, rfl, rfl⟩

theorem renderInline_nil : renderInline [] = [] := by
  simp [renderInline]

/-- The text before the first span is one plain piece, and behind the span the search for others
starts afresh. -/
theorem renderInline_append_of_read (uncoded : backtick ∉ a)
    (read : codeSpans.read? s = some (code, r)) :
    renderInline (a ++ s) =
      renderInline a ++ (element "code".toList (escapeKeeping code) ++ renderInline r) := by
  have quiet := codeSpans.unread_of_not_mem codeSpans_starts uncoded
  have bare : ¬ Piece.BeginPlain (.found code :: codeSpans.cut r) := by
    rintro ⟨_, _, same⟩
    cases same
  have cut : codeSpans.cut (a ++ s) = Piece.pushText a (.found code :: codeSpans.cut r) := by
    rw [codeSpans.cut_append quiet, codeSpans.cut_of_read? read]
  have span : renderInline s = element "code".toList (escapeKeeping code) ++ renderInline r := by
    simp [renderInline, codeSpans.cut_of_read? read, element]
  by_cases empty : a = []
  · simpa [empty, renderInline_nil] using span
  · rw [renderInline_of_not_mem uncoded, ← span]
    simp only [renderInline, cut, Piece.pushText_of_not_beginPlain empty bare, List.flatMap_cons,
      codeSpans.cut_of_read? read]

end Spans

/-- A span of escaped code comes out as it is between the tags of code, and parts the text before it
from the text behind it: marks inside stay, none pairs across, and nothing is escaped again. -/
theorem renderInline_codeSpan {a u : Text} (uncoded : backtick ∉ a) (nonempty : escape u ≠ [])
    (closed : backtick ∉ escape u) (b : Text) :
    renderInline (a ++ [backtick] ++ escape u ++ [backtick] ++ b) =
      renderInline a ++ "<code>".toList ++ escape u ++ "</code>".toList ++ renderInline b := by
  have read : codeSpans.read? (backtick :: (escape u ++ backtick :: b)) = some (escape u, b) :=
    codeSpans_read_iff.mpr ⟨rfl, nonempty, closed⟩
  have whole := renderInline_append_of_read uncoded read
  rw [escapeKeeping_of_marked (marked_escape u)] at whole
  simpa [element] using whole

/-- Marks on both sides of a span and in it, and backticks behind it that make no span. -/
theorem renderInline_codeSpan_marks :
    let a := "**b *[l](".toList
    let u := "*&amp;*<i>[x](y)**".toList
    let b := ") i***\x60\x60c\x60d\x60".toList
    backtick ∉ a ∧ escape u ≠ [] ∧ backtick ∉ escape u ∧
      renderInline (a ++ [backtick] ++ escape u ++ [backtick] ++ b) =
        renderInline a ++ "<code>".toList ++ escape u ++ "</code>".toList ++ renderInline b := by
  intro a u b
  have uncoded : backtick ∉ a := by decide
  have nonempty : escape u ≠ [] := by decide
  have closed : backtick ∉ escape u := by decide
  exact ⟨uncoded, nonempty, closed, renderInline_codeSpan uncoded nonempty closed b⟩

end Folio.Markup
