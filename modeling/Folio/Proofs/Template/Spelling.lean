import Folio.Proofs.Template.Cut
import Folio.Template.Parse

/-! The grammar of templates and its agreement with the parser: the scan cuts a template into
markers and literal text, and the stack of open blocks rebuilds the tree that they spell. -/
namespace Folio.Template

open Text (Piece)

/-- Whether a tree is one that a template can spell. No two siblings are both literal text. -/
inductive WellFormed : List Node → Prop
  | nil : WellFormed []
  | literal {s : Text} {nodes : List Node} : s ≠ [] → ¬ HasMarker s →
      (∀ next rest, nodes ≠ .literal next :: rest) → WellFormed nodes →
        WellFormed (.literal s :: nodes)
  | slot {path : Text} {nodes : List Node} : IsPath path → WellFormed nodes →
      WellFormed (.slot path :: nodes)
  | loop {name path : Text} {body nodes : List Node} : IsName name → IsPath path →
      WellFormed body → WellFormed nodes → WellFormed (.loop name path body :: nodes)
  | condition {path : Text} {body nodes : List Node} : IsPath path →
      WellFormed body → WellFormed nodes → WellFormed (.condition path body :: nodes)

/-- The templates that spell a tree. -/
inductive Spells : List Node → Text → Prop
  | nil : Spells [] []
  | literal {s t : Text} {nodes : List Node} : Spells nodes t →
      Spells (.literal s :: nodes) (s ++ t)
  | slot {path marker t : Text} {nodes : List Node} : Marker.Spelling (.slot path) marker →
      Spells nodes t → Spells (.slot path :: nodes) (marker ++ t)
  | loop {name path opening inner closing t : Text} {body nodes : List Node} :
      Marker.Spelling (.opens (.loop name path)) opening → Spells body inner →
        Marker.Spelling (.closes .loop) closing → Spells nodes t →
          Spells (.loop name path body :: nodes) (opening ++ (inner ++ (closing ++ t)))
  | condition {path opening inner closing t : Text} {body nodes : List Node} :
      Marker.Spelling (.opens (.condition path)) opening → Spells body inner →
        Marker.Spelling (.closes .condition) closing → Spells nodes t →
          Spells (.condition path body :: nodes) (opening ++ (inner ++ (closing ++ t)))

/-- Pieces whose markers nest as the blocks of a tree do. -/
inductive Nested : List Node → List (Piece (Marker × Text)) → Prop
  | nil : Nested [] []
  | literal {s : Text} {nodes : List Node} {pieces : List (Piece (Marker × Text))} :
      Nested nodes pieces → Nested (.literal s :: nodes) (.plain s :: pieces)
  | slot {path spelled : Text} {nodes : List Node} {pieces : List (Piece (Marker × Text))} :
      Nested nodes pieces →
        Nested (.slot path :: nodes) (.found (.slot path, spelled) :: pieces)
  | block {head : Head} {opening closing : Text} {body nodes : List Node}
      {inner pieces : List (Piece (Marker × Text))} : Nested body inner → Nested nodes pieces →
        Nested (head.block body :: nodes)
          (.found (.opens head, opening) ::
            (inner ++ .found (.closes head.kind, closing) :: pieces))

/-- What is left to come when blocks are open: the rest of the innermost body, its closing marker,
and the same for the blocks around it. -/
def Finishes (before : List Node) (pieces : List (Piece (Marker × Text))) (result : List Node) :
    List Frame → Prop
  | [] => ∃ nodes, Nested nodes pieces ∧ result = before.reverse ++ nodes
  | frame :: outer =>
    ∃ nodes inner closing rest, Nested nodes inner ∧
      pieces = inner ++ .found (.closes frame.head.kind, closing) :: rest ∧
      Finishes (frame.head.block (before.reverse ++ nodes) :: frame.before) rest result outer

theorem Finishes.push (first : List (Piece (Marker × Text))) {node : Node}
    {pieces : List (Piece (Marker × Text))} {before result : List Node} {stack : List Frame}
    (spell : ∀ nodes inner, Nested nodes inner → Nested (node :: nodes) (first ++ inner))
    (h : Finishes (node :: before) pieces result stack) :
    Finishes before (first ++ pieces) result stack := by
  cases stack with
  | nil =>
    obtain ⟨nodes, nested, rfl⟩ := h
    exact ⟨node :: nodes, spell nodes pieces nested, by simp⟩
  | cons frame outer =>
    obtain ⟨nodes, inner, closing, rest, nested, rfl, tail⟩ := h
    refine ⟨node :: nodes, first ++ inner, closing, rest, spell nodes inner nested, by simp, ?_⟩
    simpa using tail

theorem finishes_of_assemble {offset : Nat} {before result : List Node} {stack : List Frame}
    {pieces : List (Piece (Marker × Text))}
    (h : assemble offset before stack pieces = .ok result) :
    Finishes before pieces result stack := by
  induction pieces generalizing offset before stack with
  | nil =>
    cases stack with
    | nil =>
      cases h
      exact ⟨[], .nil, by simp⟩
    | cons frame outer => cases h
  | cons piece pieces ih =>
    match piece with
    | .plain s => exact Finishes.push [.plain s] (fun _ _ => .literal) (ih h)
    | .found (.slot path, spelled) =>
      exact Finishes.push [.found (.slot path, spelled)] (fun _ _ => .slot) (ih h)
    | .found (.opens head, opening) =>
      obtain ⟨body, inner, closing, rest, nested, rfl, tail⟩ := ih h
      let first := Piece.found (Marker.opens head, opening) ::
        (inner ++ [.found (.closes head.kind, closing)])
      have spell (nodes : List Node) (after : List (Piece (Marker × Text)))
          (follows : Nested nodes after) : Nested (head.block body :: nodes) (first ++ after) := by
        simp only [first, List.cons_append, List.append_assoc, List.nil_append]
        exact .block nested follows
      simpa [first] using Finishes.push first spell tail
    | .found (.closes kind, closing) =>
      cases stack with
      | nil => cases h
      | cons frame outer =>
        simp only [assemble] at h
        split at h
        · rename_i same
          exact ⟨[], [], closing, pieces, .nil, by simp [same], by simpa using ih h⟩
        · cases h

/-- Nested pieces are read as their tree, whatever is open and whatever follows. -/
theorem assemble_nested {nodes : List Node} {inner : List (Piece (Marker × Text))}
    (h : Nested nodes inner) (offset : Nat) (before : List Node) (stack : List Frame)
    (rest : List (Piece (Marker × Text))) :
    ∃ next, assemble offset before stack (inner ++ rest) =
      assemble next (nodes.reverse ++ before) stack rest := by
  induction h generalizing offset before stack rest with
  | nil => exact ⟨offset, rfl⟩
  | @literal s nodes pieces _ ih =>
    obtain ⟨next, same⟩ := ih (offset + s.length) (.literal s :: before) stack rest
    exact ⟨next, by simpa [assemble] using same⟩
  | @slot path spelled nodes pieces _ ih =>
    obtain ⟨next, same⟩ := ih (offset + spelled.length) (.slot path :: before) stack rest
    exact ⟨next, by simpa [assemble] using same⟩
  | @block head opening closing body nodes inner pieces _ _ ihBody ihNodes =>
    obtain ⟨inside, first⟩ := ihBody (offset + opening.length) []
      (⟨head, opening, offset, before⟩ :: stack)
      (.found (.closes head.kind, closing) :: (pieces ++ rest))
    obtain ⟨next, second⟩ := ihNodes (inside + closing.length) (head.block body :: before)
      stack rest
    exact ⟨next, by simpa [assemble, first] using second⟩

theorem assemble_eq_ok_iff (offset : Nat) (pieces : List (Piece (Marker × Text)))
    (nodes : List Node) : assemble offset [] [] pieces = .ok nodes ↔ Nested nodes pieces := by
  constructor
  · intro h
    obtain ⟨found, nested, rfl⟩ := finishes_of_assemble h
    simpa using nested
  · intro nested
    obtain ⟨next, same⟩ := assemble_nested nested offset [] [] []
    simpa [assemble] using same

theorem beginPlain_append {xs ys : List (Piece (Marker × Text))}
    (h : Piece.BeginPlain (xs ++ ys)) : Piece.BeginPlain xs ∨ Piece.BeginPlain ys := by
  cases xs with
  | nil => exact .inr h
  | cons x xs =>
    obtain ⟨s, rest, same⟩ := h
    cases same
    exact .inl ⟨s, xs, rfl⟩

theorem IsCut.append {xs ys : List (Piece (Marker × Text))} {s t : Text} (first : IsCut xs s)
    (next : ¬ Piece.BeginPlain ys) (second : IsCut ys t) : IsCut (xs ++ ys) (s ++ t) := by
  induction first with
  | nil => exact second
  | @plain s u pieces nonempty none apart _ ih =>
    rw [List.append_assoc]
    refine .plain nonempty none ?_ ih
    intro begins
    rcases beginPlain_append begins with begins | begins
    · exact apart begins
    · exact next begins
  | found wellFormed spelling _ ih =>
    rw [List.append_assoc]
    exact .found wellFormed spelling ih

theorem IsCut.split {xs ys : List (Piece (Marker × Text))} {x : Marker × Text} {t : Text}
    (h : IsCut (xs ++ .found x :: ys) t) :
    ∃ u v, t = u ++ v ∧ IsCut xs u ∧ IsCut (.found x :: ys) v := by
  induction xs generalizing t with
  | nil => exact ⟨[], t, rfl, .nil, h⟩
  | cons piece xs ih =>
    cases h with
    | plain nonempty none apart h =>
      obtain ⟨u, v, rfl, first, second⟩ := ih h
      refine ⟨_, v, (List.append_assoc _ u v).symm, .plain nonempty none ?_ first, second⟩
      rintro ⟨s, rest, rfl⟩
      exact apart ⟨s, rest ++ .found x :: ys, rfl⟩
    | found wellFormed spelling h =>
      obtain ⟨u, v, rfl, first, second⟩ := ih h
      exact ⟨_, v, (List.append_assoc _ u v).symm, .found wellFormed spelling first, second⟩

theorem Nested.beginPlain_iff {nodes : List Node} {pieces : List (Piece (Marker × Text))}
    (h : Nested nodes pieces) :
    Piece.BeginPlain pieces ↔ ∃ s rest, nodes = .literal s :: rest := by
  cases h with
  | nil =>
    constructor
    · rintro ⟨s, rest, same⟩; cases same
    · rintro ⟨s, rest, same⟩; cases same
  | literal h => exact ⟨fun _ => ⟨_, _, rfl⟩, fun _ => ⟨_, _, rfl⟩⟩
  | slot h =>
    constructor
    · rintro ⟨s, rest, same⟩; cases same
    · rintro ⟨s, rest, same⟩; cases same
  | @block head =>
    constructor
    · rintro ⟨s, rest, same⟩; cases same
    · rintro ⟨s, rest, same⟩; cases head <;> cases same

/-- Nested pieces of a cut spell a well-formed tree. -/
theorem Nested.spells {nodes : List Node} {pieces : List (Piece (Marker × Text))} {t : Text}
    (nested : Nested nodes pieces) (cut : IsCut pieces t) : WellFormed nodes ∧ Spells nodes t := by
  induction nested generalizing t with
  | nil =>
    cases cut
    exact ⟨.nil, .nil⟩
  | literal nested ih =>
    cases cut with
    | plain nonempty none apart cut =>
      have tail := ih cut
      have alone := fun next rest same => apart (nested.beginPlain_iff.mpr ⟨next, rest, same⟩)
      exact ⟨.literal nonempty none alone tail.1, .literal tail.2⟩
  | slot nested ih =>
    cases cut with
    | found isPath spelling cut =>
      have tail := ih cut
      exact ⟨.slot isPath tail.1, .slot spelling tail.2⟩
  | @block head opening closing body nodes inner pieces _ _ ihBody ihNodes =>
    cases cut with
    | found wellFormed spelling cut =>
      obtain ⟨u, v, rfl, cutBody, cutRest⟩ := cut.split
      cases cutRest with
      | found _ closes cutNodes =>
        have bodyOk := ihBody cutBody
        have nodesOk := ihNodes cutNodes
        cases head with
        | loop name path =>
          exact ⟨.loop wellFormed.1 wellFormed.2 bodyOk.1 nodesOk.1,
            .loop spelling bodyOk.2 closes nodesOk.2⟩
        | condition path =>
          exact ⟨.condition wellFormed bodyOk.1 nodesOk.1,
            .condition spelling bodyOk.2 closes nodesOk.2⟩

theorem IsCut.block {head : Head} {opening closing s t : Text}
    {inner pieces : List (Piece (Marker × Text))} (wellFormed : Marker.WellFormed (.opens head))
    (opens : Marker.Spelling (.opens head) opening)
    (closes : Marker.Spelling (.closes head.kind) closing)
    (body : IsCut inner s) (rest : IsCut pieces t) :
    IsCut (.found (.opens head, opening) ::
        (inner ++ .found (.closes head.kind, closing) :: pieces))
      (opening ++ (s ++ (closing ++ t))) :=
  .found wellFormed opens
    (body.append (not_beginPlain_found _ _) (.found trivial closes rest))

/-- A spelling of a well-formed tree is cut into pieces that nest as the tree does. -/
theorem Spells.nested {nodes : List Node} {t : Text} (spells : Spells nodes t)
    (wellFormed : WellFormed nodes) : ∃ pieces, Nested nodes pieces ∧ IsCut pieces t := by
  induction spells with
  | nil => exact ⟨[], .nil, .nil⟩
  | literal spells ih =>
    cases wellFormed with
    | literal nonempty none alone wellFormed =>
      obtain ⟨pieces, nested, cut⟩ := ih wellFormed
      refine ⟨_, .literal nested, .plain nonempty none ?_ cut⟩
      intro begins
      obtain ⟨s, rest, same⟩ := nested.beginPlain_iff.mp begins
      exact alone s rest same
  | slot spelling spells ih =>
    cases wellFormed with
    | slot isPath wellFormed =>
      obtain ⟨pieces, nested, cut⟩ := ih wellFormed
      exact ⟨_, .slot nested, .found isPath spelling cut⟩
  | @loop name path opening inner closing t body nodes opens _ closes _ ihBody ihNodes =>
    cases wellFormed with
    | loop isName isPath wfBody wfNodes =>
      obtain ⟨inside, nestedBody, cutBody⟩ := ihBody wfBody
      obtain ⟨pieces, nested, cut⟩ := ihNodes wfNodes
      exact ⟨_, @Nested.block (.loop name path) _ _ _ _ _ _ nestedBody nested,
        IsCut.block ⟨isName, isPath⟩ opens closes cutBody cut⟩
  | @condition path opening inner closing t body nodes opens _ closes _ ihBody ihNodes =>
    cases wellFormed with
    | condition isPath wfBody wfNodes =>
      obtain ⟨inside, nestedBody, cutBody⟩ := ihBody wfBody
      obtain ⟨pieces, nested, cut⟩ := ihNodes wfNodes
      exact ⟨_, @Nested.block (.condition path) _ _ _ _ _ _ nestedBody nested,
        IsCut.block isPath opens closes cutBody cut⟩

/-- A template parses to the tree that it spells, and to nothing if it spells none. -/
theorem parse_eq_ok_iff (template : Text) (nodes : List Node) :
    parse template = .ok nodes ↔ WellFormed nodes ∧ Spells nodes template := by
  unfold parse
  rw [assemble_eq_ok_iff]
  constructor
  · intro nested
    exact nested.spells (isCut_cut template)
  · rintro ⟨wellFormed, spells⟩
    obtain ⟨pieces, nested, cut⟩ := spells.nested wellFormed
    rw [cut.cut_eq]
    exact nested

end Folio.Template
