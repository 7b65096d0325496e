import Folio.Proofs.Template.Meaning
import Folio.Proofs.Template.Spelling

/-! Two templates one after the other. Unless a marker forms where they meet, the whole is cut as
the two are, its blocks are those of the two, and its text is the one text after the other. -/
namespace Folio.Template

open Text (Piece)

section Seam

/-- A marker of the joined text begins in the first text and ends in the second. -/
def Straddles (s t : Text) : Prop :=
  ∃ before m spelled after, m.WellFormed ∧ Marker.Spelling m spelled ∧
    s ++ t = before ++ (spelled ++ after) ∧ before.length < s.length ∧ after.length < t.length

variable {s t u : Text}

theorem Straddles.append_left (h : Straddles t u) (s : Text) : Straddles (s ++ t) u := by
  obtain ⟨before, m, spelled, after, wellFormed, spelling, same, begins, ends⟩ := h
  refine ⟨s ++ before, m, spelled, after, wellFormed, spelling, ?_, ?_, ends⟩
  · rw [List.append_assoc, List.append_assoc, same]
  · simpa using begins

theorem Straddles.append_right (h : Straddles s t) (u : Text) : Straddles s (t ++ u) := by
  obtain ⟨before, m, spelled, after, wellFormed, spelling, same, begins, ends⟩ := h
  refine ⟨before, m, spelled, after ++ u, wellFormed, spelling, ?_, begins, ?_⟩
  · rw [← List.append_assoc, same]
    simp only [List.append_assoc]
  · simpa using ends

/-- A marker of a joined text stands in one of the two texts or across the seam. -/
theorem HasMarker.of_append (h : HasMarker (s ++ t)) :
    HasMarker s ∨ HasMarker t ∨ Straddles s t := by
  obtain ⟨before, m, spelled, after, wellFormed, spelling, same⟩ := h
  -- it crosses the seam, ends before it, or begins behind it
  by_cases begins : before.length < s.length
  · by_cases ends : after.length < t.length
    · exact .inr (.inr ⟨before, m, spelled, after, wellFormed, spelling, same, begins, ends⟩)
    · have tail : after <:+ s ++ t := ⟨before ++ spelled, by rw [same, List.append_assoc]⟩
      obtain ⟨rest, rfl⟩ : t <:+ after :=
        List.suffix_of_suffix_length_le (List.suffix_append s t) tail (Nat.le_of_not_lt ends)
      have own : s ++ t = before ++ (spelled ++ rest) ++ t := by simpa using same
      exact .inl ⟨before, m, spelled, rest, wellFormed, spelling, List.append_cancel_right own⟩
  · have front : before <+: s ++ t := ⟨spelled ++ after, same.symm⟩
    obtain ⟨rest, rfl⟩ : s <+: before :=
      List.prefix_of_prefix_length_le (List.prefix_append s t) front (Nat.le_of_not_lt begins)
    rw [List.append_assoc] at same
    exact .inr (.inl ⟨rest, m, spelled, after, wellFormed, spelling, List.append_cancel_left same⟩)

end Seam

section Occurrences

variable {s t : Text}

theorem hasMarker_iff :
    HasMarker s ↔ ∃ n, n < s.length ∧ (markers.read? (s.drop n)).isSome = true := by
  constructor
  · rintro ⟨before, m, spelled, after, wellFormed, spelling, rfl⟩
    have read : markers.read? (spelled ++ after) = some ((m, spelled), after) :=
      markers_read?_eq_some_iff.mpr ⟨wellFormed, spelling, rfl⟩
    have longer := markers.shorter read
    refine ⟨before.length, ?_, ?_⟩
    · rw [List.length_append]
      omega
    · rw [List.drop_left, read]
      rfl
  · rintro ⟨n, -, read⟩
    obtain ⟨⟨⟨m, spelled⟩, after⟩, read⟩ := Option.isSome_iff_exists.mp read
    obtain ⟨wellFormed, spelling, rest⟩ := markers_read?_eq_some_iff.mp read
    exact ⟨s.take n, m, spelled, after, wellFormed, spelling, by rw [← rest, List.take_append_drop]⟩

theorem straddles_iff : Straddles s t ↔ ∃ n, n < s.length ∧
    ((markers.read? ((s ++ t).drop n)).any fun found => found.2.length < t.length) = true := by
  constructor
  · rintro ⟨before, m, spelled, after, wellFormed, spelling, same, begins, ends⟩
    have read : markers.read? (spelled ++ after) = some ((m, spelled), after) :=
      markers_read?_eq_some_iff.mpr ⟨wellFormed, spelling, rfl⟩
    refine ⟨before.length, begins, ?_⟩
    rw [same, List.drop_left, read]
    simpa using ends
  · rintro ⟨n, begins, read⟩
    obtain ⟨⟨⟨m, spelled⟩, after⟩, read, ends⟩ := (Option.any_eq_true _ _).mp read
    obtain ⟨wellFormed, spelling, rest⟩ := markers_read?_eq_some_iff.mp read
    refine ⟨(s ++ t).take n, m, spelled, after, wellFormed, spelling, ?_, ?_, by simpa using ends⟩
    · rw [← rest, List.take_append_drop]
    · rw [List.length_take, List.length_append]
      omega

instance (s : Text) : Decidable (HasMarker s) := decidable_of_iff' _ hasMarker_iff

instance (s t : Text) : Decidable (Straddles s t) := decidable_of_iff' _ straddles_iff

end Occurrences

section Pieces

variable {α : Type}

/-- Puts pieces behind others; literal text that meets literal text becomes one piece. -/
def glue : List (Piece α) → List (Piece α) → List (Piece α)
  | [], later => later
  | [.plain s], later => Piece.pushText s later
  | [.found a], later => .found a :: later
  | piece :: next :: pieces, later => piece :: glue (next :: pieces) later

variable {pieces later : List (Piece α)}

theorem glue_found (a : α) (pieces later : List (Piece α)) :
    glue (.found a :: pieces) later = .found a :: glue pieces later := by
  cases pieces <;> rfl

theorem glue_cons_of_ne_nil (piece : Piece α) (more : pieces ≠ []) (later : List (Piece α)) :
    glue (piece :: pieces) later = piece :: glue pieces later := by
  cases pieces with
  | nil => exact absurd rfl more
  | cons next pieces => cases piece <;> rfl

theorem glue_append_found (inner : List (Piece α)) (a : α) (pieces later : List (Piece α)) :
    glue (inner ++ .found a :: pieces) later = inner ++ .found a :: glue pieces later := by
  induction inner with
  | nil => exact glue_found a pieces later
  | cons piece inner ih =>
    rw [List.cons_append, glue_cons_of_ne_nil piece (by simp), ih, List.cons_append]

end Pieces

section Cut

variable {s t : Text} {pieces later : List (Piece (Marker × Text))}

theorem IsCut.pushText (nonempty : s ≠ []) (none : ¬ HasMarker s) (cut : IsCut later t)
    (apart : ¬ Straddles s t) : IsCut (Piece.pushText s later) (s ++ t) := by
  by_cases begins : Piece.BeginPlain later
  · obtain ⟨u, rest, rfl⟩ := begins
    rw [Piece.pushText_plain]
    cases cut with
    | @plain _ w _ _ none' next cut =>
      rw [← List.append_assoc]
      -- literal text meets literal text, and a marker in both together would cross the seam
      refine .plain (by simp [nonempty]) (fun whole => ?_) next cut
      obtain inFirst | inSecond | across := whole.of_append
      · exact none inFirst
      · exact none' inSecond
      · exact apart (across.append_right w)
  · rw [Piece.pushText_of_not_beginPlain nonempty begins]
    exact .plain nonempty none begins cut

theorem IsCut.glue (first : IsCut pieces s) (second : IsCut later t) (apart : ¬ Straddles s t) :
    IsCut (glue pieces later) (s ++ t) := by
  induction first with
  | nil => exact second
  | @plain s u pieces nonempty none next first ih =>
    have onward := ih fun across => apart (across.append_left s)
    rw [List.append_assoc]
    cases first with
    | nil =>
      rw [List.append_nil] at apart
      exact second.pushText nonempty none apart
    | plain => exact absurd ⟨_, _, rfl⟩ next
    | found =>
      rw [glue_cons_of_ne_nil _ (by simp)]
      refine .plain nonempty none ?_ onward
      rw [glue_found]
      exact not_beginPlain_found _ _
  | @found m spelled u pieces wellFormed spelling first ih =>
    rw [List.append_assoc, glue_found]
    exact .found wellFormed spelling (ih fun across => apart (across.append_left spelled))

/-- The scan finds in the whole what it finds in the two texts. -/
theorem cut_append_of_not_straddles (apart : ¬ Straddles s t) :
    markers.cut (s ++ t) = Template.glue (markers.cut s) (markers.cut t) :=
  ((isCut_cut s).glue (isCut_cut t) apart).cut_eq

end Cut

section Trees

variable {pieces later : List (Piece (Marker × Text))} {nodes more : List Node}

/-- The nodes nest as the pieces do and have the given text in every context. -/
def Means (pieces : List (Piece (Marker × Text))) (text : Fields → Text) : Prop :=
  ∃ nodes, Nested nodes pieces ∧ ∀ context, meaningOf context nodes = text context

theorem Nested.pushText (nested : Nested nodes pieces) (s : Text) :
    Means (Piece.pushText s pieces) fun context => s ++ meaningOf context nodes := by
  by_cases empty : s = []
  · subst empty
    exact ⟨nodes, nested, fun _ => rfl⟩
  · by_cases begins : Piece.BeginPlain pieces
    · obtain ⟨t, rest, rfl⟩ := begins
      rw [Piece.pushText_plain]
      cases nested with
      | literal nested =>
        refine ⟨_, .literal nested, fun context => ?_⟩
        simp only [meaningOf, Node.meaning, List.append_assoc]
    · rw [Piece.pushText_of_not_beginPlain empty begins]
      exact ⟨_, .literal nested, fun _ => rfl⟩

theorem Nested.glue (first : Nested nodes pieces) (second : Nested more later) :
    Means (Template.glue pieces later) fun context =>
      meaningOf context nodes ++ meaningOf context more := by
  induction first with
  | nil => exact ⟨more, second, fun _ => rfl⟩
  | @literal s nodes pieces nested ih =>
    obtain ⟨joined, whole, means⟩ := ih
    cases nested with
    | nil => simpa [Template.glue, meaningOf, Node.meaning] using second.pushText s
    | _ =>
      rw [glue_cons_of_ne_nil _ (by simp)]
      exact ⟨_, .literal whole, fun context => by simp [meaningOf, means]⟩
  | @slot path spelled nodes pieces _ ih =>
    obtain ⟨joined, whole, means⟩ := ih
    rw [glue_found]
    exact ⟨_, .slot whole, fun context => by simp [meaningOf, means]⟩
  | @block head opening closing body nodes inner pieces nestedBody _ _ ih =>
    -- the first text ends outside every block, so what follows is behind the closing marker
    obtain ⟨joined, whole, means⟩ := ih
    rw [glue_found, glue_append_found]
    exact ⟨_, .block nestedBody whole, fun context => by simp [meaningOf, means]⟩

theorem Means.render {template : Text} {text : Fields → Text}
    (means : Means (markers.cut template) text) :
    (parse template).isOk = true ∧ ∀ context, render template context = .ok (text context) := by
  obtain ⟨nodes, nested, same⟩ := means
  have parsed : parse template = .ok nodes := (assemble_eq_ok_iff 0 _ nodes).mpr nested
  exact ⟨by rw [parsed]; rfl, fun context => by rw [render_of_parse parsed, same]⟩

theorem exists_nested_of_parse {template : Text} (parses : (parse template).isOk = true) :
    ∃ nodes, parse template = .ok nodes ∧ Nested nodes (markers.cut template) := by
  cases parsed : parse template with
  | error imbalance =>
    rw [parsed] at parses
    cases parses
  | ok nodes => exact ⟨nodes, rfl, (assemble_eq_ok_iff 0 _ nodes).mp parsed⟩

end Trees

/-- If both templates parse and no marker stands across the seam, the whole parses, and its text is
that of the first followed by that of the second. A template without markers is its own text. -/
theorem render_append :
    (∀ s t : Text, (parse s).isOk = true → (parse t).isOk = true → ¬ Straddles s t →
      (parse (s ++ t)).isOk = true ∧ ∀ context, ∃ first second,
        render s context = .ok first ∧ render t context = .ok second ∧
          render (s ++ t) context = .ok (first ++ second)) ∧
    ∀ s : Text, ¬ HasMarker s → ∀ context, render s context = .ok s := by
  constructor
  · intro s t parsesFirst parsesSecond apart
    obtain ⟨nodes, parsed, nested⟩ := exists_nested_of_parse parsesFirst
    obtain ⟨more, parsed', nested'⟩ := exists_nested_of_parse parsesSecond
    have whole := nested.glue nested'
    rw [← cut_append_of_not_straddles apart] at whole
    exact ⟨whole.render.1, fun context => ⟨_, _, render_of_parse parsed context,
      render_of_parse parsed' context, whole.render.2 context⟩⟩
  · intro s none context
    have cut : markers.cut s = Piece.pushText s [] := by
      simpa using cut_plain (t := []) none (.inl rfl)
    have means := Nested.nil.pushText s
    rw [← cut] at means
    rw [means.render.2 context, meaningOf, List.append_nil]

/-- The first text ends in what could begin a marker, and the second begins with what could end
one; literal text meets at the seam. -/
theorem render_append_halves :
    let s := "\x7b% if c %\x7d\x7b\x7b x \x7d\x7d\x7b% endif %\x7d\x7b".toList
    let t := "\x7b x y\x7d\x7d\x7b% for i in xs %\x7d\x7b\x7b i \x7d\x7d\x7b% endfor %\x7d".toList
    ((parse s).isOk = true ∧ (parse t).isOk = true ∧ ¬ Straddles s t ∧
      (parse (s ++ t)).isOk = true ∧ ∀ context, ∃ first second,
        render s context = .ok first ∧ render t context = .ok second ∧
          render (s ++ t) context = .ok (first ++ second)) ∧
    ¬ HasMarker "\x7b% if %\x7d".toList ∧
      ∀ context, render "\x7b% if %\x7d".toList context = .ok "\x7b% if %\x7d".toList := by
  intro s t
  have parsesFirst : (parse s).isOk = true := by decide +kernel
  have parsesSecond : (parse t).isOk = true := by decide +kernel
  have apart : ¬ Straddles s t := by decide +kernel
  have none : ¬ HasMarker "\x7b% if %\x7d".toList := by decide +kernel
  exact ⟨⟨parsesFirst, parsesSecond, apart, render_append.1 s t parsesFirst parsesSecond apart⟩,
    none, render_append.2 _ none⟩

end Folio.Template
