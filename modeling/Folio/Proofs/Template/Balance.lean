import Folio.Proofs.Markup.Nesting
import Folio.Proofs.Template.Cut
import Folio.Template.Parse

/-! When the block markers of a template are balanced, and which marker is to blame when they are
not. -/
namespace Folio.Template

open Markup (Tag openAfter openAfter_append_some openAfter_closes)
open Text (Piece)

inductive Side
  | opening
  | closing
  deriving DecidableEq, Repr

/-- A block marker where it stands in a template. -/
structure BlockMark where
  side : Side
  kind : BlockKind
  spelled : Text
  offset : Nat
  deriving DecidableEq, Repr

/-- The block markers of pieces of a template that start at `offset`. -/
def blockMarks (offset : Nat) : List (Piece (Marker × Text)) → List BlockMark
  | [] => []
  | .plain s :: pieces => blockMarks (offset + s.length) pieces
  | .found (m, spelled) :: pieces =>
    let later := blockMarks (offset + spelled.length) pieces
    match m with
    | .slot _ => later
    | .opens head => ⟨.opening, head.kind, spelled, offset⟩ :: later
    | .closes kind => ⟨.closing, kind, spelled, offset⟩ :: later

def blockMarksOf (template : Text) : List BlockMark := blockMarks 0 (markers.cut template)

/-- Every opening marker has a closing marker of its kind, and blocks lie beside or inside one
another. -/
inductive Balanced : List BlockMark → Prop
  | nil : Balanced []
  | block {opener closer : BlockMark} {inner rest : List BlockMark} : opener.side = .opening →
      closer.side = .closing → closer.kind = opener.kind → Balanced inner → Balanced rest →
        Balanced (opener :: (inner ++ closer :: rest))

/-- The blocks that markers leave open, the innermost first. What stands between their opening
markers is balanced. -/
inductive LeavesOpen : List BlockMark → List BlockMark → Prop
  | nil {marks : List BlockMark} : Balanced marks → LeavesOpen marks []
  | cons {marks outer inner : List BlockMark} {opener : BlockMark} : LeavesOpen marks outer →
      opener.side = .opening → Balanced inner →
        LeavesOpen (marks ++ opener :: inner) (opener :: outer)

/-- A closing marker that no open block or one of the other kind awaits, though all the closing
markers before it have found their blocks. -/
def Unmatched (marks : List BlockMark) (closer : BlockMark) : Prop :=
  ∃ before after stack, marks = before ++ closer :: after ∧ closer.side = .closing ∧
    LeavesOpen before stack ∧ ∀ opener ∈ stack.head?, opener.kind ≠ closer.kind

section Grammar

variable {marks more stack : List BlockMark} {opener closer : BlockMark}

theorem Balanced.append (first : Balanced marks) (second : Balanced more) :
    Balanced (marks ++ more) := by
  induction first with
  | nil => exact second
  | @block opener closer inner rest opens closes same inside _ _ ih =>
    have whole : opener :: (inner ++ closer :: rest) ++ more =
        opener :: (inner ++ closer :: (rest ++ more)) := by simp
    rw [whole]
    exact .block opens closes same inside ih

theorem LeavesOpen.append (h : LeavesOpen marks stack) (balanced : Balanced more) :
    LeavesOpen (marks ++ more) stack := by
  cases h with
  | nil first => exact .nil (first.append balanced)
  | cons outer opens inner =>
    rw [List.append_assoc]
    exact .cons outer opens (inner.append balanced)

theorem LeavesOpen.open (h : LeavesOpen marks stack) (opens : opener.side = .opening) :
    LeavesOpen (marks ++ [opener]) (opener :: stack) :=
  .cons h opens .nil

theorem LeavesOpen.close (h : LeavesOpen marks (opener :: stack)) (closes : closer.side = .closing)
    (same : closer.kind = opener.kind) : LeavesOpen (marks ++ [closer]) stack := by
  cases h with
  | cons outer opens inner =>
    rw [List.append_assoc]
    exact outer.append (.block opens closes same inner .nil)

theorem LeavesOpen.balanced (h : LeavesOpen marks []) : Balanced marks := by
  cases h with
  | nil balanced => exact balanced

theorem LeavesOpen.head_mem (h : LeavesOpen marks (opener :: stack)) : opener ∈ marks := by
  cases h with
  | cons => simp

end Grammar

section Reading

variable {marks stack : List BlockMark}

def BlockMark.name (mark : BlockMark) : Text := mark.kind.endWord

/-- A block marker as a tag. -/
def BlockMark.tag (mark : BlockMark) : Tag :=
  match mark.side with
  | .opening => .opens mark.name
  | .closing => .closes mark.name

theorem BlockMark.tag_opening {mark : BlockMark} (opens : mark.side = .opening) :
    mark.tag = .opens mark.name := by
  simp [tag, opens]

theorem BlockMark.tag_closing {mark : BlockMark} (closes : mark.side = .closing) :
    mark.tag = .closes mark.name := by
  simp [tag, closes]

theorem BlockMark.kind_eq_of_name_eq {a b : BlockMark} (same : a.name = b.name) :
    a.kind = b.kind := by
  unfold name at same
  cases ha : a.kind <;> cases hb : b.kind <;> simp [ha, hb] at same ⊢

theorem Balanced.nested (h : Balanced marks) : Markup.Nested (marks.map BlockMark.tag) := by
  induction h with
  | nil => exact .nil
  | @block opener closer inner rest opens closes same _ _ ihInner ihRest =>
    have named : closer.name = opener.name := by rw [BlockMark.name, same, BlockMark.name]
    have split : (opener :: (inner ++ closer :: rest)).map BlockMark.tag =
        Markup.enclose opener.name (inner.map BlockMark.tag) ++ rest.map BlockMark.tag := by
      simp [Markup.enclose, BlockMark.tag_opening opens, BlockMark.tag_closing closes, named]
    rw [split]
    exact (ihInner.enclose opener.name).append ihRest

theorem LeavesOpen.openAfter (h : LeavesOpen marks stack) :
    openAfter [] (marks.map BlockMark.tag) = some (stack.map BlockMark.name) := by
  induction h with
  | nil balanced => exact balanced.nested
  | @cons marks outer inner opener _ opens inside ih =>
    rw [List.map_append, List.map_cons, BlockMark.tag_opening opens]
    exact openAfter_append_some.mpr ⟨_, ih, inside.nested.openAfter_eq _⟩

/-- Balanced markers close every block that opens among them. -/
theorem Balanced.not_append_opener {before after : List BlockMark} {opener : BlockMark}
    (balanced : Balanced after) (opens : opener.side = .opening) :
    ¬ Balanced (before ++ opener :: after) := by
  intro whole
  have reads := whole.nested
  rw [List.map_append, List.map_cons, BlockMark.tag_opening opens] at reads
  obtain ⟨middle, _, second⟩ := openAfter_append_some.mp reads
  have left : Markup.openAfter (opener.name :: middle) (after.map BlockMark.tag) = some [] := second
  rw [balanced.nested.openAfter_eq] at left
  cases Option.some.inj left

theorem LeavesOpen.unique {stack' : List BlockMark} (h : LeavesOpen marks stack)
    (h' : LeavesOpen marks stack') : stack = stack' := by
  induction h generalizing stack' with
  | nil balanced =>
    cases h' with
    | nil => rfl
    | cons _ opens inside => exact absurd balanced (inside.not_append_opener opens)
  | @cons marks outer inner opener _ opens inside ih =>
    generalize same : marks ++ opener :: inner = whole at h'
    cases h' with
    | nil balanced =>
      subst same
      exact absurd balanced (inside.not_append_opener opens)
    | @cons marks' outer' inner' opener' h' opens' inside' =>
      -- one of the two openers would stand inside balanced markers behind the other
      rcases List.append_eq_append_iff.mp same with ⟨between, rfl, tail⟩ | ⟨between, rfl, tail⟩
      · cases between with
        | nil =>
          obtain ⟨rfl, rfl⟩ := List.cons.inj tail
          rw [List.append_nil] at h'
          rw [ih h']
        | cons mark between =>
          obtain ⟨rfl, rfl⟩ := List.cons.inj tail
          exact absurd inside (inside'.not_append_opener opens')
      · cases between with
        | nil =>
          obtain ⟨rfl, rfl⟩ := List.cons.inj tail
          rw [List.append_nil] at ih
          rw [ih h']
        | cons mark between =>
          obtain ⟨rfl, rfl⟩ := List.cons.inj tail
          exact absurd inside' (inside.not_append_opener opens)

/-- No reading goes past an unmatched closing marker. -/
theorem LeavesOpen.not_read {before after stack' : List BlockMark} {closer : BlockMark}
    (h : LeavesOpen before stack) (closes : closer.side = .closing)
    (unmatched : ∀ opener ∈ stack.head?, opener.kind ≠ closer.kind) :
    ¬ LeavesOpen (before ++ closer :: after) stack' := by
  intro whole
  have reads := whole.openAfter
  rw [List.map_append, List.map_cons, BlockMark.tag_closing closes] at reads
  obtain ⟨middle, first, second⟩ := openAfter_append_some.mp reads
  obtain ⟨below, top, _⟩ := openAfter_closes.mp second
  rw [h.openAfter, top] at first
  cases stack with
  | nil => cases first
  | cons opener outer =>
    obtain ⟨same, _⟩ := List.cons.inj (Option.some.inj first)
    exact unmatched opener rfl (BlockMark.kind_eq_of_name_eq same)

theorem Unmatched.not_leavesOpen {closer : BlockMark} (h : Unmatched marks closer)
    (stack : List BlockMark) : ¬ LeavesOpen marks stack := by
  obtain ⟨before, after, open_, rfl, closes, leaves, unmatched⟩ := h
  exact leaves.not_read closes unmatched

theorem Unmatched.eq {first second : BlockMark} (h : Unmatched marks first)
    (h' : Unmatched marks second) : first = second := by
  obtain ⟨before, after, open_, rfl, closes, leaves, unmatched⟩ := h
  obtain ⟨before', after', open', same, closes', leaves', unmatched'⟩ := h'
  -- the marker that stands later would be read past the earlier one
  rcases List.append_eq_append_iff.mp same with ⟨between, rfl, tail⟩ | ⟨between, rfl, tail⟩
  · cases between with
    | nil => exact (List.cons.inj tail).1
    | cons mark between =>
      obtain ⟨rfl, _⟩ := List.cons.inj tail
      exact absurd leaves' (leaves.not_read closes unmatched)
  · cases between with
    | nil => exact (List.cons.inj tail).1.symm
    | cons mark between =>
      obtain ⟨rfl, _⟩ := List.cons.inj tail
      exact absurd leaves (leaves'.not_read closes' unmatched')

end Reading

section Blame

/-- What is wrong with markers that are not balanced: the first closing marker that is unmatched, or
else the innermost block that stays open. -/
inductive Blames (marks : List BlockMark) : Imbalance → Prop
  | unopened {before after : List BlockMark} {closer : BlockMark} :
      marks = before ++ closer :: after → closer.side = .closing → LeavesOpen before [] →
        Blames marks (.unopened closer.spelled closer.offset)
  | crossed {before after outer : List BlockMark} {closer opener : BlockMark} :
      marks = before ++ closer :: after → closer.side = .closing →
        LeavesOpen before (opener :: outer) → opener.kind ≠ closer.kind →
          Blames marks
            (.crossed closer.spelled closer.offset opener.spelled opener.offset)
  | unclosed {opener : BlockMark} {outer : List BlockMark} : LeavesOpen marks (opener :: outer) →
      Blames marks (.unclosed opener.spelled opener.offset)

def Frame.mark (frame : Frame) : BlockMark :=
  ⟨.opening, frame.head.kind, frame.spelled, frame.offset⟩

/-- The markers read so far leave open what is on the stack. -/
theorem assemble_spec (pieces : List (Piece (Marker × Text))) (offset : Nat) (nodes : List Node)
    (frames : List Frame) (read : List BlockMark)
    (stack : LeavesOpen read (frames.map Frame.mark)) :
    match assemble offset nodes frames pieces with
    | .ok _ => Balanced (read ++ blockMarks offset pieces)
    | .error e => Blames (read ++ blockMarks offset pieces) e := by
  induction pieces generalizing offset nodes frames read with
  | nil =>
    rw [blockMarks, List.append_nil]
    cases frames with
    | nil => exact stack.balanced
    | cons frame outer => exact .unclosed stack
  | cons piece pieces ih =>
    match piece with
    | .plain s => exact ih _ _ frames read stack
    | .found (.slot path, spelled) => exact ih _ _ frames read stack
    | .found (.opens head, spelled) =>
      let frame : Frame := ⟨head, spelled, offset, nodes⟩
      have opened := ih (offset + spelled.length) [] (frame :: frames) (read ++ [frame.mark])
        (stack.open rfl)
      rw [List.append_assoc] at opened
      exact opened
    | .found (.closes kind, spelled) =>
      let closer : BlockMark := ⟨.closing, kind, spelled, offset⟩
      have split : read ++ blockMarks offset (.found (.closes kind, spelled) :: pieces) =
        read ++ closer :: blockMarks (offset + spelled.length) pieces := rfl
      cases frames with
      | nil => exact .unopened split rfl stack
      | cons frame outer =>
        simp only [assemble]
        by_cases same : frame.head.kind = kind
        · have closed := ih (offset + spelled.length)
            (frame.head.block nodes.reverse :: frame.before) outer (read ++ [closer])
            (stack.close rfl same.symm)
          rw [List.append_assoc] at closed
          rw [if_pos same]
          exact closed
        · rw [if_neg same]
          exact .crossed split rfl stack same

theorem parse_spec (template : Text) :
    match parse template with
    | .ok _ => Balanced (blockMarksOf template)
    | .error e => Blames (blockMarksOf template) e :=
  assemble_spec (markers.cut template) 0 [] [] [] (.nil .nil)

variable {marks : List BlockMark} {e : Imbalance}

theorem Blames.not_balanced (h : Blames marks e) : ¬ Balanced marks := by
  intro balanced
  have whole : LeavesOpen marks [] := .nil balanced
  cases h with
  | unopened split closes leaves =>
    subst split
    exact leaves.not_read closes (by simp) whole
  | crossed split closes leaves other =>
    subst split
    exact leaves.not_read closes (by simpa using other) whole
  | unclosed leaves =>
    have same := leaves.openAfter.symm.trans whole.openAfter
    cases Option.some.inj same

def Imbalance.Names (e : Imbalance) (mark : BlockMark) : Prop :=
  e.marker = mark.spelled ∧ e.offset = mark.offset

/-- What is to blame is an unmatched closing marker or, where there is none, the innermost block
that is open at the end. -/
theorem Blames.culprit (h : Blames marks e) :
    (∃ closer, Unmatched marks closer ∧ e.Names closer) ∨
      ∃ opener outer, LeavesOpen marks (opener :: outer) ∧ e.Names opener := by
  cases h with
  | unopened split closes leaves =>
    exact .inl ⟨_, ⟨_, _, [], split, closes, leaves, by simp⟩, rfl, rfl⟩
  | crossed split closes leaves other =>
    exact .inl ⟨_, ⟨_, _, _, split, closes, leaves, by simpa using other⟩, rfl, rfl⟩
  | unclosed leaves => exact .inr ⟨_, _, leaves, rfl, rfl⟩

theorem Unmatched.mem {closer : BlockMark} (h : Unmatched marks closer) : closer ∈ marks := by
  obtain ⟨before, after, _, rfl, _⟩ := h
  simp

end Blame

section Places

def source : Piece (Marker × Text) → Text
  | .plain s => s
  | .found marker => marker.2

theorem flatMap_source_cut (template : Text) :
    (markers.cut template).flatMap source = template := by
  have spelled : markers.replace Prod.snd template = template :=
    markers.replace_spell (fun _ _ _ found => (markers_read?_eq_some_iff.mp found).2.2) template
  refine (congrArg (fun f => (markers.cut template).flatMap f) (funext fun piece => ?_)).trans
    spelled
  cases piece <;> rfl

/-- A marker stands at its offset. -/
theorem take_drop_of_mem (front : Text) {pieces : List (Piece (Marker × Text))} {mark : BlockMark}
    (member : mark ∈ blockMarks front.length pieces) :
    ((front ++ pieces.flatMap source).drop mark.offset).take mark.spelled.length =
      mark.spelled := by
  induction pieces generalizing front with
  | nil => cases member
  | cons piece pieces ih =>
    have later : mark ∈ blockMarks (front.length + (source piece).length) pieces →
        ((front ++ (piece :: pieces).flatMap source).drop mark.offset).take mark.spelled.length =
          mark.spelled := by
      intro member
      rw [← List.length_append] at member
      rw [List.flatMap_cons, ← List.append_assoc]
      exact ih (front ++ source piece) member
    match piece with
    | .plain s => exact later member
    | .found (.slot path, spelled) => exact later member
    | .found (.opens head, spelled) =>
      rcases List.mem_cons.mp member with rfl | member
      · simp [source]
      · exact later member
    | .found (.closes kind, spelled) =>
      rcases List.mem_cons.mp member with rfl | member
      · simp [source]
      · exact later member

theorem take_drop_of_mem_blockMarksOf {template : Text} {mark : BlockMark}
    (member : mark ∈ blockMarksOf template) :
    (template.drop mark.offset).take mark.spelled.length = mark.spelled := by
  have stands := take_drop_of_mem [] member
  rwa [flatMap_source_cut] at stands

end Places

/-- A template is refused exactly if its block markers are not balanced, with a report that names
the first unmatched closing marker, or else the innermost block that is never closed. -/
theorem parse_imbalance (template : Text) :
    ((∃ nodes, parse template = .ok nodes) ↔ Balanced (blockMarksOf template)) ∧
    ((∃ e, parse template = .error e) ↔ ¬ Balanced (blockMarksOf template)) ∧
    ∀ e, parse template = .error e →
      e.report.kind = .templateSyntax ∧
      (∀ closer, Unmatched (blockMarksOf template) closer → e.Names closer) ∧
      ((∀ closer, ¬ Unmatched (blockMarksOf template) closer) →
        ∃ opener outer, LeavesOpen (blockMarksOf template) (opener :: outer) ∧ e.Names opener) ∧
      (template.drop e.offset).take e.marker.length = e.marker := by
  have spec := parse_spec template
  cases outcome : parse template with
  | ok nodes =>
    rw [outcome] at spec
    refine ⟨⟨fun _ => spec, fun _ => ⟨nodes, rfl⟩⟩, ⟨?_, fun not => absurd spec not⟩, ?_⟩
    · rintro ⟨e, same⟩
      cases same
    · rintro e same
      cases same
  | error e =>
    rw [outcome] at spec
    have unbalanced : ¬ Balanced (blockMarksOf template) := spec.not_balanced
    refine ⟨⟨?_, fun balanced => absurd balanced unbalanced⟩,
      ⟨fun _ => unbalanced, fun _ => ⟨e, rfl⟩⟩, ?_⟩
    · rintro ⟨nodes, same⟩
      cases same
    · rintro _ ⟨⟩
      have stands {mark : BlockMark} (names : e.Names mark)
          (member : mark ∈ blockMarksOf template) :
          (template.drop e.offset).take e.marker.length = e.marker := by
        rw [names.1, names.2]
        exact take_drop_of_mem_blockMarksOf member
      rcases spec.culprit with ⟨closer, unmatched, names⟩ | ⟨opener, outer, leaves, names⟩
      · refine ⟨rfl, fun other h => ?_, fun none => absurd unmatched (none closer),
          stands names unmatched.mem⟩
        rwa [h.eq unmatched]
      · exact ⟨rfl, fun closer h => absurd leaves (h.not_leavesOpen _),
          fun _ => ⟨opener, outer, leaves, names⟩, stands names leaves.head_mem⟩

/-- Two blocks that cross, and a loop that stays open around a condition that does not. -/
theorem parse_imbalance_crossed :
    let opening := "\x7b% for x in y %\x7d\x7b\x7b z \x7d\x7d\x7b% if c %\x7d".toList
    let crossed := opening ++ "\x7b% endfor %\x7d\x7b% endif %\x7d".toList
    let unclosed := opening ++ "\x7b% endif %\x7d\x7b% endfor %".toList
    let loop : BlockMark := ⟨.opening, .loop, "\x7b% for x in y %\x7d".toList, 0⟩
    let closer : BlockMark := ⟨.closing, .loop, "\x7b% endfor %\x7d".toList, 33⟩
    (∃ e, parse crossed = .error e ∧ Unmatched (blockMarksOf crossed) closer ∧ e.Names closer) ∧
      ∃ e, parse unclosed = .error e ∧
        (∀ closer, ¬ Unmatched (blockMarksOf unclosed) closer) ∧ e.Names loop := by
  intro opening crossed unclosed loop closer
  let condition : BlockMark := ⟨.opening, .condition, "\x7b% if c %\x7d".toList, 23⟩
  have alone : LeavesOpen [loop] [loop] := .cons (.nil .nil) rfl .nil
  have both : LeavesOpen [loop, condition] [condition, loop] := alone.open rfl
  constructor
  · have marks : blockMarksOf crossed = [loop, condition] ++ closer ::
        [⟨.closing, .condition, "\x7b% endif %\x7d".toList, 45⟩] := by
      decide +kernel
    have unmatched : Unmatched (blockMarksOf crossed) closer :=
      ⟨_, _, _, marks, rfl, both, by decide⟩
    obtain ⟨e, refused⟩ := (parse_imbalance crossed).2.1.mpr fun balanced =>
      unmatched.not_leavesOpen [] (.nil balanced)
    exact ⟨e, refused, unmatched, ((parse_imbalance crossed).2.2 e refused).2.1 closer unmatched⟩
  · have marks : blockMarksOf unclosed =
        [loop, condition, ⟨.closing, .condition, "\x7b% endif %\x7d".toList, 33⟩] := by
      decide +kernel
    have leaves : LeavesOpen (blockMarksOf unclosed) [loop] := by
      rw [marks]
      exact both.close rfl rfl
    have matched (closer : BlockMark) : ¬ Unmatched (blockMarksOf unclosed) closer :=
      fun unmatched => unmatched.not_leavesOpen _ leaves
    obtain ⟨e, refused⟩ := (parse_imbalance unclosed).2.1.mpr fun balanced =>
      List.cons_ne_nil _ _ (leaves.unique (.nil balanced))
    obtain ⟨opener, outer, opened, names⟩ :=
      ((parse_imbalance unclosed).2.2 e refused).2.2.1 matched
    obtain ⟨rfl, _⟩ := List.cons.inj (opened.unique leaves)
    exact ⟨e, refused, matched, names⟩

end Folio.Template
