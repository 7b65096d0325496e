import Folio.Proofs.Template.Dependence

/-! Paths taken in two steps, and paths out of a loop. A path goes on where its first part has led,
if that is a mapping, and in a turn of a loop only two names are new. -/
namespace Folio

namespace Value

/-- Names are followed one after another, so the walk may stop anywhere and go on from there. It
goes on in a mapping only: the empty text of a walk that has failed is no mapping either. -/
theorem follow_append (names : List Text) {more : List Text} (onward : more ≠ []) (value : Value) :
    follow (names ++ more) value =
      match follow names value with
      | .map fields => follow more (.map fields)
      | _ => .text [] := by
  induction names generalizing value with
  | nil =>
    obtain ⟨name, rest, rfl⟩ := List.exists_cons_of_ne_nil onward
    cases value <;> rfl
  | cons name names ih =>
    rw [List.cons_append, follow_cons, follow_cons]
    cases value.get? name with
    | none => rfl
    | some below => exact ih below

end Value

namespace Template

open Value (firstName resolve)

/-- A path in two parts leads where the second part leads from the mapping at the first, and to the
empty text if there is no mapping; and a path that begins with neither of a turn's names leads to
the same in the turn as outside. -/
theorem resolve_composes :
    (∀ (context : Fields) (p q : Text), resolve (p ++ '.' :: q) context =
      match resolve p context with
      | .map fields => resolve q fields
      | _ => .text []) ∧
    ∀ (context : Fields) (name : Text) (item : Value) (index : Nat) (p : Text),
      firstName p ≠ name → firstName p ≠ "loop".toList →
        resolve p (turnContext context name item index) = resolve p context := by
  constructor
  · intro context p q
    simp only [resolve, Text.splitOn_append_cons]
    exact Value.follow_append _ (Text.splitOn_ne_nil '.' q) _
  · intro context name item index p other outside
    obtain ⟨names, resolved⟩ := Value.exists_resolve_eq p
    rw [resolved, resolved, get?_turnContext, if_neg outside, if_neg other]

/-- The names of the turn stand at the second place of a path or begin its first name, and the path
has an empty name in it. -/
theorem resolve_composes_beside :
    let context : Fields :=
      [("loops".toList, .map [(['x'], .map [([], .map [("loop".toList, .null)])])]),
        (['x'], .text [])]
    let path := "loops.x.".toList
    firstName path ≠ ['x'] ∧ firstName path ≠ "loop".toList ∧
      resolve path (turnContext context ['x'] (.int 7) 2) = resolve path context ∧
      resolve (path ++ '.' :: "loop".toList) context = .null ∧
      resolve ("x.".toList ++ '.' :: "loop".toList) context = .text [] := by
  intro context path
  have other : firstName path ≠ ['x'] := by decide
  have outside : firstName path ≠ "loop".toList := by decide
  obtain ⟨composes, keeps⟩ := resolve_composes
  refine ⟨other, outside, keeps context ['x'] (.int 7) 2 path other outside, ?_, ?_⟩
  · exact composes context path "loop".toList
  · exact composes context "x.".toList "loop".toList

end Template

end Folio
