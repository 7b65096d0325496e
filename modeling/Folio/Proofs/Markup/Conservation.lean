import Folio.Proofs.Markup.Balance
import Folio.Proofs.Markup.Lines
import Folio.Proofs.Markup.LinkAddress

/-! What inline markup leaves as it was. Without its tags and marks, rendered text is the source
without its marks: every pass keeps the rest of the text, each part of it once and in its place. -/
namespace Folio.Markup

open Text (Pattern Piece dropPrefix? dropPrefix?_eq_some)

/-- The tags of emphasis and of code. -/
def styleTags : List Text := emphasisTags ++ ["<code>".toList, "</code>".toList]

def styling : Pattern Unit where
  read? s := styleTags.findSome? fun tag => (dropPrefix? tag s).map fun rest => ((), rest)
  shorter := by
    intro s rest u h
    have positive : ∀ tag ∈ styleTags, 0 < tag.length := by decide
    obtain ⟨tag, member, found⟩ := List.exists_of_findSome?_eq_some h
    obtain ⟨_, behind, out⟩ := Option.map_eq_some_iff.mp found
    cases out
    have longer := positive tag member
    rw [dropPrefix?_eq_some.mp behind, List.length_append]
    omega

/-- All tags are deleted at once, so that none is made of what another left. -/
def withoutTags (s : Text) : Text := styling.replace (fun _ => []) s

def withoutMarks (s : Text) : Text := s.filter fun c => c ≠ '*' ∧ c ≠ backtick

/-- What a text says, whatever its tags and marks. -/
def wording (s : Text) : Text := withoutMarks (withoutTags s)

section Deletion

variable {s : Text}

theorem styling_starts (c : Char) (s : Text) (other : c ≠ '<') :
    styling.read? (c :: s) = none := by
  have bracketed : ∀ tag ∈ styleTags, tag.head? = some '<' := by decide
  apply List.findSome?_eq_none_iff.mpr
  intro tag member
  obtain ⟨name, rfl⟩ := List.head?_eq_some_iff.mp (bracketed tag member)
  simp [dropPrefix?, Ne.symm other]

theorem withoutTags_append_of_not_mem (open_ : '<' ∉ s) (t : Text) :
    withoutTags (s ++ t) = s ++ withoutTags t :=
  styling.replace_append _ (styling.unread_of_not_mem styling_starts open_) t

theorem withoutTags_of_not_mem (open_ : '<' ∉ s) : withoutTags s = s :=
  styling.replace_of_unread _ (styling.unread_of_not_mem styling_starts open_)

theorem withoutTags_nil : withoutTags [] = [] := styling.replace_nil _

theorem withoutTags_tag {tag : Text} (member : tag ∈ styleTags) (s : Text) :
    withoutTags (tag ++ s) = withoutTags s := by
  have read : styling.read? (tag ++ s) = some ((), s) := by
    have tags : styleTags = ["<b>", "<i>", "</b>", "</i>", "<code>", "</code>"].map String.toList :=
      rfl
    simp only [tags, List.map_cons, List.map_nil, List.mem_cons, List.not_mem_nil, or_false] at member
    rcases member with rfl | rfl | rfl | rfl | rfl | rfl <;> rfl
  exact styling.replace_of_read? _ read

/-- No tag is made of the end of one marked text and the beginning of another. -/
theorem withoutTags_append (h : Marked styleTags s) (t : Text) :
    withoutTags (s ++ t) = withoutTags s ++ withoutTags t := by
  induction h with
  | nil => rw [withoutTags_nil, List.nil_append, List.nil_append]
  | @char c s less _ _ _ ih =>
    have kept (t : Text) : withoutTags (c :: t) = c :: withoutTags t :=
      styling.replace_cons_of_none _ (styling_starts c t less)
    rw [List.cons_append, kept, kept, ih, List.cons_append]
  | @entity e s member _ ih =>
    obtain ⟨name, rfl, _, noLess, _, _⟩ := entity_shape member
    have plain : '<' ∉ '&' :: name := by simpa using noLess
    rw [List.append_assoc, withoutTags_append_of_not_mem plain, withoutTags_append_of_not_mem plain,
      ih, List.append_assoc]
  | @tag tag s member _ ih =>
    rw [List.append_assoc, withoutTags_tag member, withoutTags_tag member, ih]

theorem wording_append (h : Marked styleTags s) (t : Text) :
    wording (s ++ t) = wording s ++ wording t := by
  simp only [wording, withoutMarks, withoutTags_append h, List.filter_append]

end Deletion

/-- A text rewritten with other tags and marks. -/
structure Rewrites (s t : Text) : Prop where
  source : Marked styleTags s
  written : Marked styleTags t
  wording : wording t = wording s

namespace Rewrites

variable {s t u v : Text}

theorem refl (h : Marked styleTags s) : Rewrites s s := ⟨h, h, rfl⟩

theorem trans (first : Rewrites s t) (second : Rewrites t u) : Rewrites s u :=
  ⟨first.source, second.written, second.wording.trans first.wording⟩

theorem append (front : Rewrites s t) (back : Rewrites u v) : Rewrites (s ++ u) (t ++ v) := by
  refine ⟨front.source.append back.source, front.written.append back.written, ?_⟩
  rw [wording_append front.written, wording_append front.source, front.wording, back.wording]

theorem flatMap {α : Type} {f g : α → Text} {xs : List α} (each : ∀ x ∈ xs, Rewrites (f x) (g x)) :
    Rewrites (xs.flatMap f) (xs.flatMap g) := by
  induction xs with
  | nil => exact .refl .nil
  | cons x xs ih =>
    obtain ⟨first, rest⟩ := List.forall_mem_cons.mp each
    exact first.append (ih rest)

end Rewrites

/-- Marks and tags only. -/
structure Silent (s : Text) : Prop where
  marked : Marked styleTags s
  wording : wording s = []

namespace Silent

variable {s t : Text}

theorem rewrites (hs : Silent s) (ht : Silent t) : Rewrites s t :=
  ⟨hs.marked, ht.marked, ht.wording.trans hs.wording.symm⟩

theorem append (hs : Silent s) (ht : Silent t) : Silent (s ++ t) :=
  ⟨hs.marked.append ht.marked, by rw [wording_append hs.marked, hs.wording, ht.wording]; rfl⟩

theorem nil : Silent [] := ⟨.nil, congrArg withoutMarks withoutTags_nil⟩

theorem tag (member : t ∈ styleTags) : Silent t := by
  have deleted := withoutTags_tag member []
  rw [List.append_nil, withoutTags_nil] at deleted
  exact ⟨.single member, congrArg withoutMarks deleted⟩

theorem mark {c : Char} (own : c = '*' ∨ c = backtick) : Silent [c] := by
  obtain ⟨less, greater, amp⟩ : c ≠ '<' ∧ c ≠ '>' ∧ c ≠ '&' := by
    rcases own with rfl | rfl <;> decide
  have kept : withoutTags [c] = [c] := withoutTags_of_not_mem (by simpa using less.symm)
  have deleted : withoutMarks [c] = [] := by rcases own with rfl | rfl <;> rfl
  exact ⟨.char less greater amp .nil, (congrArg withoutMarks kept).trans deleted⟩

theorem stars (n : Nat) : Silent (stars n) := by
  induction n with
  | zero => exact nil
  | succ n ih => exact (mark (.inl rfl)).append ih

end Silent

section Emphasis

variable {n : Nat} {opening closing : String} {s : Text}

/-- A pass of emphasis puts tags in the place of marks. -/
theorem rewrites_emphasize (opens : Silent opening.toList) (closes : Silent closing.toList)
    (marked : Marked styleTags s) : Rewrites s (emphasize (n + 1) opening closing s) := by
  have star : Foreign styleTags '*' := by decide
  have pieces : ∀ piece ∈ (emphasis (n + 1)).cut s,
      piece.Holds (Marked styleTags) (Marked styleTags) := by
    refine marked.cut (by decide) star (emphasis_starts n) ?_
    intro s inner r found marked
    exact marked_of_emphasis_read star found marked
  have whole : ((emphasis (n + 1)).cut s).flatMap
      (Piece.spelled fun inner => stars (n + 1) ++ inner ++ stars (n + 1)) = s := by
    apply (emphasis (n + 1)).flatMap_spelled_cut
    intro s inner r found
    rw [emphasis_read found]
    simp only [List.append_assoc]
  conv => arg 1; rw [← whole]
  apply Rewrites.flatMap
  intro piece member
  cases piece with
  | plain t => exact .refl (pieces (.plain t) member)
  | found inner =>
    have marks := Silent.stars (n + 1)
    have inside : Rewrites inner inner := .refl (pieces (.found inner) member)
    exact ((marks.rewrites opens).append inside).append (marks.rewrites closes)

theorem rewrites_emphasized (marked : Marked styleTags s) : Rewrites s (emphasized s) := by
  have bold : Silent "<b>".toList := .tag (by decide)
  have boldEnd : Silent "</b>".toList := .tag (by decide)
  have italic : Silent "<i>".toList := .tag (by decide)
  have italicEnd : Silent "</i>".toList := .tag (by decide)
  have third : Rewrites s (emphasize 3 "<b><i>" "</i></b>" s) :=
    rewrites_emphasize (bold.append italic) (italicEnd.append boldEnd) marked
  have second := rewrites_emphasize (n := 1) bold boldEnd third.written
  have first := rewrites_emphasize (n := 0) italic italicEnd second.written
  exact (third.trans second).trans first

theorem renderPlain_of_not_mem (unlinked : '[' ∉ s) : renderPlain s = emphasized s := by
  have bracket : '[' ∉ emphasized s :=
    fun member => unlinked (mem_of_mem_emphasized (by decide) member)
  exact links.replace_of_unread Link.html (links.unread_of_not_mem links_starts bracket)

end Emphasis

theorem rewrites_renderInline {s : Text} (marked : Marked [] s) (unlinked : '[' ∉ s) :
    Rewrites s (renderInline s) := by
  have pieces := marked_codePieces marked
  have styled {t : Text} (h : Marked [] t) : Marked styleTags t := h.mono (by simp)
  have mark : Silent [backtick] := .mark (.inr rfl)
  have whole : (codeSpans.cut s).flatMap
      (Piece.spelled fun code => [backtick] ++ code ++ [backtick]) = s := by
    apply codeSpans.flatMap_spelled_cut
    intro s code r found
    rw [codeSpans_read found]
    simp
  conv => arg 1; rw [← whole]
  apply Rewrites.flatMap
  intro piece member
  cases piece with
  | plain t =>
    have inside : '[' ∉ t := by
      intro bracket
      rw [← whole] at unlinked
      exact unlinked (List.mem_flatMap.mpr ⟨.plain t, member, bracket⟩)
    simp only [Piece.spelled, renderPlain_of_not_mem inside]
    exact rewrites_emphasized (styled (pieces (.plain t) member))
  | found code =>
    have inside : Marked [] code := pieces (.found code) member
    simp only [Piece.spelled, escapeKeeping_of_marked inside]
    have opens : Silent "<code>".toList := .tag (by decide)
    have closes : Silent "</code>".toList := .tag (by decide)
    exact ((mark.rewrites opens).append (.refl (styled inside))).append (mark.rewrites closes)

/-- Escaped text without links comes out of inline markup as it was, once the tags are deleted from
the one and the marks from both. -/
theorem wording_renderInline {t : Text} (unlinked : '[' ∉ t) :
    withoutMarks (withoutTags (renderInline (escape t))) = withoutMarks (escape t) := by
  have marked := marked_escape t
  have bracket : '[' ∉ escape t := by
    intro member
    obtain ⟨c, inside, own⟩ := List.mem_flatMap.mp member
    exact unlinked (eq_of_mem_escapeChar (by decide) own ▸ inside)
  calc withoutMarks (withoutTags (renderInline (escape t)))
      = withoutMarks (withoutTags (escape t)) := (rewrites_renderInline marked bracket).wording
    _ = withoutMarks (escape t) :=
        congrArg withoutMarks (withoutTags_of_not_mem marked.escaped.1)

/-- Runs of four, five and seven stars, one of them around a span, and tags in the source. -/
theorem wording_renderInline_runs :
    let t := "****a*** <b>*c**\x60*d*\x60** e*****f*******g***\x60".toList
    '[' ∉ t ∧ withoutMarks (withoutTags (renderInline (escape t))) = withoutMarks (escape t) := by
  intro t
  have unlinked : '[' ∉ t := by decide
  exact ⟨unlinked, wording_renderInline unlinked⟩

end Folio.Markup
