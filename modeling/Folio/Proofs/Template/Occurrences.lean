import Folio.Proofs.Template.Cut

/-! Every place of a template where a marker is spelled. No two of them overlap and none can be read
in two ways, so the scan, which goes on behind each find, still comes upon them all. -/
namespace Folio.Template

open Text (Piece)

structure Occurrence where
  offset : Nat
  marker : Marker
  spelled : Text
  deriving DecidableEq, Repr

namespace Occurrence

def finish (a : Occurrence) : Nat := a.offset + a.spelled.length

/-- The marker is spelled at the offset, whether or not a search from the left gets there. -/
structure In (a : Occurrence) (template : Text) : Prop where
  wellFormed : a.marker.WellFormed
  spelling : Marker.Spelling a.marker a.spelled
  stands : a.spelled <+: template.drop a.offset

def Apart (a b : Occurrence) : Prop := a.finish ≤ b.offset ∨ b.finish ≤ a.offset

end Occurrence

/-- The markers among pieces of a template that start at `offset`. -/
def occurrences (offset : Nat) : List (Piece (Marker × Text)) → List Occurrence
  | [] => []
  | .plain s :: pieces => occurrences (offset + s.length) pieces
  | .found (m, spelled) :: pieces =>
    ⟨offset, m, spelled⟩ :: occurrences (offset + spelled.length) pieces

def occurrencesOf (template : Text) : List Occurrence := occurrences 0 (markers.cut template)

/-- The pieces of a template from a place on, cut around the given markers: between two of them
stands what the template has there, if it has anything. -/
def piecesAt (template : Text) (cursor : Nat) : List Occurrence → List (Piece (Marker × Text))
  | [] => Piece.pushText (template.drop cursor) []
  | a :: later =>
    Piece.pushText ((template.drop cursor).take (a.offset - cursor))
      (.found (a.marker, a.spelled) :: piecesAt template a.finish later)

section Places

variable {template : Text} {a b : Occurrence}

theorem Occurrence.In.offset_lt_finish (h : a.In template) : a.offset < a.finish := by
  obtain ⟨sign, tail, front, _⟩ := h.spelling.front h.wellFormed
  rw [finish, front, List.length_cons]
  omega

theorem Occurrence.In.finish_le_length (h : a.In template) : a.finish ≤ template.length := by
  have own := h.stands.length_le
  have nonempty := h.offset_lt_finish
  rw [List.length_drop] at own
  rw [finish] at nonempty ⊢
  omega

theorem Occurrence.In.hasMarker (h : a.In template) : HasMarker template := by
  obtain ⟨after, rest⟩ := h.stands
  exact ⟨template.take a.offset, a.marker, a.spelled, after, h.wellFormed, h.spelling,
    by rw [rest, List.take_append_drop]⟩

/-- At one place a marker is spelled in one way only. -/
theorem Occurrence.In.eq (h : a.In template) (h' : b.In template) (same : a.offset = b.offset) :
    a = b := by
  obtain ⟨offset, m, spelled⟩ := a
  obtain ⟨_, m', spelled'⟩ := b
  obtain rfl : offset = _ := same
  obtain ⟨after, rest⟩ := h.stands
  obtain ⟨after', rest'⟩ := h'.stands
  have read := markers_read?_eq_some_iff.mpr ⟨h.wellFormed, h.spelling, rest.symm⟩
  have read' := markers_read?_eq_some_iff.mpr ⟨h'.wellFormed, h'.spelling, rest'.symm⟩
  rw [read] at read'
  cases read'
  rfl

theorem Occurrence.In.finish_le (h : a.In template) (h' : b.In template)
    (before : a.offset < b.offset) : a.finish ≤ b.offset := by
  by_contra inside
  simp only [finish, Nat.not_le] at inside
  obtain ⟨after, rest⟩ := h.stands
  obtain ⟨after', rest'⟩ := h'.stands
  -- the second would begin behind the first character of the first and before its end
  let k := b.offset - a.offset
  have halves : a.spelled.take k ++ a.spelled.drop k = a.spelled := List.take_append_drop k _
  have overlap : a.spelled.drop k ++ after = b.spelled ++ after' := by
    have moved : template.drop b.offset = (template.drop a.offset).drop k := by
      rw [List.drop_drop, Nat.add_sub_cancel' (Nat.le_of_lt before)]
    rw [rest', moved, ← rest, List.drop_append_of_le_length (by omega)]
  have first : Marker.Spelling a.marker (a.spelled.take k ++ a.spelled.drop k) :=
    halves.symm ▸ h.spelling
  have begun : a.spelled.take k ≠ [] :=
    List.ne_nil_of_length_pos (by rw [List.length_take]; omega)
  have unended : a.spelled.drop k ≠ [] :=
    List.ne_nil_of_length_pos (by rw [List.length_drop]; omega)
  exact first.apart h.wellFormed h'.spelling h'.wellFormed begun unended after after' overlap

theorem Occurrence.In.apart (h : a.In template) (h' : b.In template)
    (distinct : a.offset ≠ b.offset) : a.Apart b := by
  rcases Nat.lt_or_gt_of_ne distinct with before | behind
  · exact .inl (h.finish_le h' before)
  · exact .inr (h'.finish_le h behind)

end Places

section Scan

variable {pieces : List (Piece (Marker × Text))} {t : Text}

theorem offset_le_of_mem {n : Nat} {a : Occurrence} (member : a ∈ occurrences n pieces) :
    n ≤ a.offset := by
  induction pieces generalizing n with
  | nil => cases member
  | cons piece pieces ih =>
    match piece with
    | .plain s => exact Nat.le_trans (Nat.le_add_right n s.length) (ih member)
    | .found (m, spelled) =>
      rcases List.mem_cons.mp member with rfl | later
      · exact Nat.le_refl n
      · exact Nat.le_trans (Nat.le_add_right n spelled.length) (ih later)

theorem pairwise_occurrences (n : Nat) (pieces : List (Piece (Marker × Text))) :
    (occurrences n pieces).Pairwise fun a b => a.finish ≤ b.offset := by
  induction pieces generalizing n with
  | nil => exact .nil
  | cons piece pieces ih =>
    match piece with
    | .plain s => exact ih (n + s.length)
    | .found (m, spelled) => exact .cons (fun _ later => offset_le_of_mem later) (ih _)

theorem IsCut.in_of_mem (cut : IsCut pieces t) (front : Text) {a : Occurrence}
    (member : a ∈ occurrences front.length pieces) : a.In (front ++ t) := by
  induction cut generalizing front with
  | nil => cases member
  | @plain s t pieces _ _ _ _ ih =>
    rw [occurrences, ← List.length_append] at member
    rw [← List.append_assoc]
    exact ih (front ++ s) member
  | @found m spelled t pieces wellFormed spelling _ ih =>
    rcases List.mem_cons.mp member with rfl | later
    · have rest : (front ++ (spelled ++ t)).drop front.length = spelled ++ t := List.drop_left
      exact ⟨wellFormed, spelling, t, rest.symm⟩
    · rw [← List.length_append] at later
      rw [← List.append_assoc]
      exact ih (front ++ spelled) later

/-- No marker begins in literal text: it would end there as well. -/
theorem Occurrence.In.behind_literal {front s : Text} {a : Occurrence}
    (there : a.In (front ++ (s ++ t))) (behind : front.length ≤ a.offset) (none : ¬ HasMarker s)
    (next : AtMarker t) : front.length + s.length ≤ a.offset := by
  by_contra inside
  obtain ⟨after, rest⟩ := there.stands
  let k := a.offset - front.length
  have begun : (front ++ (s ++ t)).drop a.offset = s.drop k ++ t := by
    rw [List.drop_append, List.drop_of_length_le behind, List.nil_append,
      List.drop_append_of_le_length (by omega)]
  have nonempty : s.drop k ≠ [] := List.ne_nil_of_length_pos (by rw [List.length_drop]; omega)
  obtain ⟨more, whole⟩ := there.spelling.within there.wellFormed nonempty next
    (begun.symm.trans rest.symm)
  apply none
  exact ⟨s.take k, a.marker, a.spelled, more, there.wellFormed, there.spelling,
    by rw [← whole, List.take_append_drop]⟩

/-- The scan finds what is there: nothing else begins in literal text or inside a find. -/
theorem IsCut.mem_of_in (cut : IsCut pieces t) (front : Text) {a : Occurrence}
    (there : a.In (front ++ t)) (behind : front.length ≤ a.offset) :
    a ∈ occurrences front.length pieces := by
  induction cut generalizing front with
  | nil =>
    have nonempty := there.offset_lt_finish
    have ends := there.finish_le_length
    rw [List.append_nil] at ends
    omega
  | @plain s t pieces _ none next cut ih =>
    have beyond := there.behind_literal behind none (cut.atMarker next)
    rw [← List.length_append] at beyond
    rw [← List.append_assoc] at there
    rw [occurrences, ← List.length_append]
    exact ih (front ++ s) there beyond
  | @found m spelled t pieces wellFormed spelling cut ih =>
    let found : Occurrence := ⟨front.length, m, spelled⟩
    have first : found.In (front ++ (spelled ++ t)) :=
      (IsCut.found wellFormed spelling cut).in_of_mem front (List.mem_cons_self ..)
    rcases Nat.eq_or_lt_of_le behind with same | later
    · exact List.mem_cons.mpr (.inl (there.eq first same.symm))
    · have beyond : front.length + spelled.length ≤ a.offset := first.finish_le there later
      rw [← List.length_append] at beyond
      rw [← List.append_assoc] at there
      have member := ih (front ++ spelled) there beyond
      rw [List.length_append] at member
      exact List.mem_cons_of_mem found member

theorem mem_occurrencesOf (template : Text) (a : Occurrence) :
    a ∈ occurrencesOf template ↔ a.In template := by
  have cut := isCut_cut template
  constructor
  · intro member
    exact cut.in_of_mem [] member
  · intro there
    exact cut.mem_of_in [] there (Nat.zero_le _)

theorem IsCut.not_hasMarker (cut : IsCut pieces t) {s : Text} (member : .plain s ∈ pieces) :
    ¬ HasMarker s := by
  induction cut with
  | nil => cases member
  | plain _ none _ _ ih =>
    rcases List.mem_cons.mp member with same | later
    · cases same
      exact none
    · exact ih later
  | found _ _ _ ih =>
    rcases List.mem_cons.mp member with same | later
    · cases same
    · exact ih later

end Scan

section Slices

variable {pieces : List (Piece (Marker × Text))} {t : Text}

/-- Text in front of the first marker belongs to the literal text before it. -/
theorem piecesAt_of_drop {template s : Text} {cursor : Nat} {found : List Occurrence}
    (rest : template.drop cursor = s ++ t)
    (behind : ∀ a ∈ found, cursor + s.length ≤ a.offset) :
    piecesAt template cursor found =
      Piece.pushText s (piecesAt template (cursor + s.length) found) := by
  have onward : template.drop (cursor + s.length) = t := by
    rw [← List.drop_drop, rest, List.drop_left]
  have pushed (u : Text) (pieces : List (Piece (Marker × Text))) :
      Piece.pushText (s ++ u) pieces = Piece.pushText s (Piece.pushText u pieces) :=
    List.foldr_append ..
  cases found with
  | nil => simp only [piecesAt, rest, onward, pushed]
  | cons a later =>
    have place : cursor + s.length ≤ a.offset := behind a (List.mem_cons_self ..)
    have slice : (s ++ t).take (a.offset - cursor) =
        s ++ t.take (a.offset - (cursor + s.length)) := by
      rw [List.take_append, List.take_of_length_le (by omega), Nat.sub_sub]
    simp only [piecesAt, rest, onward, slice, pushed]

theorem IsCut.piecesAt_occurrences (cut : IsCut pieces t) (front : Text) :
    piecesAt (front ++ t) front.length (occurrences front.length pieces) = pieces := by
  induction cut generalizing front with
  | nil => simp [occurrences, piecesAt]
  | @plain s t pieces nonempty _ next _ ih =>
    have onward := ih (front ++ s)
    rw [List.length_append, List.append_assoc] at onward
    rw [occurrences, piecesAt_of_drop List.drop_left fun _ member => offset_le_of_mem member,
      onward, Piece.pushText_of_not_beginPlain nonempty next]
  | @found m spelled t pieces _ _ _ ih =>
    have onward := ih (front ++ spelled)
    rw [List.length_append, List.append_assoc] at onward
    simp only [occurrences, piecesAt, Occurrence.finish, Nat.sub_self, List.take_zero,
      Piece.pushText_nil, onward]

end Slices

/-- Markers of a template never overlap, a place begins at most one of them, and the scan finds them
all from left to right. It cuts the template around them into the pieces that are parsed, and no
marker is left in the literal text. -/
theorem scan_exhaustive (template : Text) :
    (∀ a b : Occurrence, a.In template → b.In template → a.offset ≠ b.offset → a.Apart b) ∧
    (∀ a b : Occurrence, a.In template → b.In template → a.offset = b.offset → a = b) ∧
    (∀ a, a ∈ occurrencesOf template ↔ a.In template) ∧
    (occurrencesOf template).Pairwise (fun a b => a.offset < b.offset) ∧
    markers.cut template = piecesAt template 0 (occurrencesOf template) ∧
    ∀ s, .plain s ∈ markers.cut template → ∀ a : Occurrence, ¬ a.In s := by
  have cut := isCut_cut template
  have found := mem_occurrencesOf template
  refine ⟨fun a b h h' => h.apart h', fun a b h h' => h.eq h', found, ?_, ?_, ?_⟩
  · have ordered := pairwise_occurrences 0 (markers.cut template)
    refine ordered.imp_of_mem fun {a b} member _ ends => ?_
    have nonempty := ((found a).mp member).offset_lt_finish
    exact Nat.lt_of_lt_of_le nonempty ends
  · exact (cut.piecesAt_occurrences []).symm
  · exact fun s member a there => cut.not_hasMarker member there.hasMarker

/-- Brackets and words of markers where none begins: a third bracket in front of a slot, a loop over
`in` under the name `in`, and a condition that lacks its path. -/
theorem scan_exhaustive_crowded :
    let template := "\x7b\x7b\x7b x \x7d\x7d\x7b%for in in in%\x7d\x7b% if %\x7d".toList
    let slot : Occurrence := ⟨1, .slot ['x'], "\x7b\x7b x \x7d\x7d".toList⟩
    let loop : Occurrence :=
      ⟨8, .opens (.loop "in".toList "in".toList), "\x7b%for in in in%\x7d".toList⟩
    let condition := "\x7b% if %\x7d".toList
    slot.In template ∧ loop.In template ∧ slot.offset ≠ loop.offset ∧ slot.Apart loop ∧
      (∀ a : Occurrence, a.In template → a.offset = loop.offset → a = loop) ∧
      .plain condition ∈ markers.cut template ∧ ∀ a : Occurrence, ¬ a.In condition := by
  intro template slot loop condition
  obtain ⟨apart, alone, found, -, -, quiet⟩ := scan_exhaustive template
  have listed : occurrencesOf template = [slot, loop] := by decide +kernel
  have first : slot.In template := (found slot).mp (by simp [listed])
  have second : loop.In template := (found loop).mp (by simp [listed])
  have distinct : slot.offset ≠ loop.offset := by decide
  have literal : .plain condition ∈ markers.cut template := by decide +kernel
  exact ⟨first, second, distinct, apart slot loop first second distinct,
    fun a there same => alone a loop there second same, literal, quiet condition literal⟩

end Folio.Template
