import Folio.Proofs.Template.Marker
import Folio.Proofs.Text.Cut

/-! The cut of a template into markers and literal text is the only one in which no literal text
holds a marker. -/
namespace Folio.Template

open Text

/-- Whether a marker occurs anywhere in a text. -/
def HasMarker (s : Text) : Prop :=
  ∃ before m spelled after,
    m.WellFormed ∧ Marker.Spelling m spelled ∧ s = before ++ (spelled ++ after)

/-- A text at which literal text ends: its end, or a marker. -/
def AtMarker (s : Text) : Prop :=
  s = [] ∨ ∃ m spelled after, m.WellFormed ∧ Marker.Spelling m spelled ∧ s = spelled ++ after

/-- Pieces that spell a text, with markers wherever there is one. -/
inductive IsCut : List (Piece (Marker × Text)) → Text → Prop
  | nil : IsCut [] []
  | plain {s t : Text} {pieces : List (Piece (Marker × Text))} :
      s ≠ [] → ¬ HasMarker s → ¬ Piece.BeginPlain pieces → IsCut pieces t →
        IsCut (.plain s :: pieces) (s ++ t)
  | found {m : Marker} {spelled t : Text} {pieces : List (Piece (Marker × Text))} :
      m.WellFormed → Marker.Spelling m spelled → IsCut pieces t →
        IsCut (.found (m, spelled) :: pieces) (spelled ++ t)

theorem not_mem_of_test {test : Char → Bool} {x : Char} {s : Text}
    (all : ∀ c ∈ s, test c = true) (other : test x = false) : x ∉ s := by
  intro member
  rw [all x member] at other
  cases other

/-- No bracket opens inside a marker, and no sign of a tag stands inside a slot. -/
theorem Marker.Spelling.shape {m : Marker} {spelled : Text} (spelling : Spelling m spelled)
    (wellFormed : m.WellFormed) :
    (∃ c rest, spelled = '{' :: '{' :: c :: rest ∧ '{' ∉ c :: rest ∧ '%' ∉ c :: rest) ∨
      (∃ rest, spelled = '{' :: '%' :: rest ∧ '{' ∉ rest) := by
  cases spelling with
  | @slot path a b blankA blankB =>
    have open₁ : '{' ∉ path := not_mem_of_test wellFormed.2 (by decide)
    have sign₁ : '%' ∉ path := not_mem_of_test wellFormed.2 (by decide)
    have open₂ : '{' ∉ a ∧ '{' ∉ b :=
      ⟨not_mem_of_test blankA (by decide), not_mem_of_test blankB (by decide)⟩
    have sign₂ : '%' ∉ a ∧ '%' ∉ b :=
      ⟨not_mem_of_test blankA (by decide), not_mem_of_test blankB (by decide)⟩
    left
    cases inside : a ++ (path ++ (b ++ ['}', '}'])) with
    | nil => simp at inside
    | cons c rest =>
      refine ⟨c, rest, ?_, ?_, ?_⟩
      · rfl
      · rw [← inside]
        simp [open₁, open₂]
      · rw [← inside]
        simp [sign₁, sign₂]
  | @loop name path a b c d e blankA gapB gapC gapD blankE =>
    have open₁ : '{' ∉ name := not_mem_of_test wellFormed.1.2 (by decide)
    have open₂ : '{' ∉ path := not_mem_of_test wellFormed.2.2 (by decide)
    have open₃ (w : Text) (blank : Blank w) : '{' ∉ w := not_mem_of_test blank (by decide)
    right
    refine ⟨_, rfl, ?_⟩
    simp [open₁, open₂, open₃ a blankA, open₃ b gapB.2, open₃ c gapC.2, open₃ d gapD.2,
      open₃ e blankE]
  | @condition path a b c blankA gapB blankC =>
    have open₁ : '{' ∉ path := not_mem_of_test wellFormed.2 (by decide)
    have open₂ (w : Text) (blank : Blank w) : '{' ∉ w := not_mem_of_test blank (by decide)
    right
    refine ⟨_, rfl, ?_⟩
    simp [open₁, open₂ a blankA, open₂ b gapB.2, open₂ c blankC]
  | @closes kind a b blankA blankB =>
    have open₁ : '{' ∉ a ∧ '{' ∉ b :=
      ⟨not_mem_of_test blankA (by decide), not_mem_of_test blankB (by decide)⟩
    right
    refine ⟨_, rfl, ?_⟩
    cases kind <;> simp [open₁]

theorem Marker.Spelling.front {m : Marker} {spelled : Text} (spelling : Spelling m spelled)
    (wellFormed : m.WellFormed) :
    ∃ sign rest, spelled = '{' :: sign :: rest ∧ (sign = '{' ∨ sign = '%') := by
  rcases spelling.shape wellFormed with ⟨c, rest, rfl, _, _⟩ | ⟨rest, rfl, _⟩
  · exact ⟨'{', c :: rest, rfl, .inl rfl⟩
  · exact ⟨'%', rest, rfl, .inr rfl⟩

/-- No marker begins inside another: its bracket and sign would stand there. -/
theorem Marker.Spelling.apart {m m' : Marker} {front back spelled : Text}
    (first : Spelling m (front ++ back)) (wellFormed : m.WellFormed)
    (second : Spelling m' spelled) (wellFormed' : m'.WellFormed) (begun : front ≠ [])
    (unended : back ≠ []) (after after' : Text) : back ++ after ≠ spelled ++ after' := by
  intro same
  obtain ⟨sign, rest', rfl, isSign⟩ := second.front wellFormed'
  obtain ⟨x, back, rfl⟩ := List.exists_cons_of_ne_nil unended
  simp only [List.cons_append, List.cons.injEq] at same
  obtain ⟨rfl, same⟩ := same
  -- with no bracket behind its second character, the first marker has this one there
  have place {sign' : Char} {rest : Text} (out : front ++ '{' :: back = '{' :: sign' :: rest)
      (noBracket : '{' ∉ rest) : sign' = '{' ∧ rest = back := by
    match front, begun with
    | [_], _ =>
      cases out
      exact ⟨rfl, rfl⟩
    | _ :: _ :: front, _ =>
      simp only [List.cons_append, List.cons.injEq] at out
      rw [← out.2.2] at noBracket
      exact absurd (by simp) noBracket
  rcases first.shape wellFormed with ⟨c, rest, out, noBracket, noSign⟩ | ⟨rest, out, noBracket⟩
  · obtain ⟨-, rfl⟩ := place out noBracket
    obtain ⟨rfl, -⟩ := List.cons.inj same
    rcases isSign with rfl | rfl
    · exact noBracket (by simp)
    · exact noSign (by simp)
  · obtain ⟨tagged, -⟩ := place out noBracket
    cases tagged

/-- A marker that begins in a text ends there too, if another marker follows the text. -/
theorem Marker.Spelling.within {m : Marker} {spelled s t after : Text}
    (spelling : Spelling m spelled) (wellFormed : m.WellFormed) (nonempty : s ≠ [])
    (next : AtMarker t) (same : s ++ t = spelled ++ after) : ∃ rest, s = spelled ++ rest := by
  rcases List.append_eq_append_iff.mp same with ⟨tail, rfl, split⟩ | ⟨rest, out, _⟩
  · by_cases ended : tail = []
    · exact ⟨[], by simp [ended]⟩
    · -- otherwise the next marker would begin inside this one
      rcases next with rfl | ⟨m', spelled', after', wellFormed', spelling', rfl⟩
      · exact absurd (List.append_eq_nil_iff.mp split.symm).1 ended
      · exact absurd split.symm
          (spelling.apart wellFormed spelling' wellFormed' nonempty ended after after')
  · exact ⟨rest, out⟩

theorem markers_read?_eq_some_iff {s r spelled : Text} {m : Marker} :
    markers.read? s = some ((m, spelled), r) ↔
      m.WellFormed ∧ Marker.Spelling m spelled ∧ s = spelled ++ r := by
  have take (spelled r : Text) :
      (spelled ++ r).take ((spelled ++ r).length - r.length) = spelled := by simp
  simp only [markers, Option.map_eq_some_iff, Prod.exists, Marker.read?_eq_some_iff]
  constructor
  · rintro ⟨m', r', ⟨spelled', wellFormed, spelling, rfl⟩, out⟩
    rw [take] at out
    cases out
    exact ⟨wellFormed, spelling, rfl⟩
  · rintro ⟨wellFormed, spelling, rfl⟩
    exact ⟨m, r, ⟨spelled, wellFormed, spelling, rfl⟩, by rw [take]⟩

theorem HasMarker.cons {s : Text} (h : HasMarker s) (c : Char) : HasMarker (c :: s) := by
  obtain ⟨before, m, spelled, after, wellFormed, spelling, rfl⟩ := h
  exact ⟨c :: before, m, spelled, after, wellFormed, spelling, rfl⟩

theorem not_hasMarker_cons {c : Char} {s t : Text} (unread : markers.read? (c :: (s ++ t)) = none)
    (none : ¬ HasMarker s) : ¬ HasMarker (c :: s) := by
  rintro ⟨before, m, spelled, after, wellFormed, spelling, same⟩
  cases before with
  | nil =>
    have read : markers.read? (c :: (s ++ t)) = some ((m, spelled), after ++ t) := by
      refine markers_read?_eq_some_iff.mpr ⟨wellFormed, spelling, ?_⟩
      rw [← List.cons_append, same]
      simp
    rw [unread] at read
    cases read
  | cons x before =>
    cases same
    exact none ⟨before, m, spelled, after, wellFormed, spelling, rfl⟩

theorem not_hasMarker_nil : ¬ HasMarker [] := by
  rintro ⟨before, m, spelled, after, wellFormed, spelling, same⟩
  obtain ⟨sign, rest, rfl, _⟩ := spelling.front wellFormed
  simp at same

theorem not_beginPlain_nil {α : Type} : ¬ Piece.BeginPlain ([] : List (Piece α)) := by
  rintro ⟨s, rest, same⟩
  cases same

theorem not_beginPlain_found {α : Type} (a : α) (pieces : List (Piece α)) :
    ¬ Piece.BeginPlain (.found a :: pieces) := by
  rintro ⟨s, rest, same⟩
  cases same

theorem IsCut.pushChar {c : Char} {t : Text} {pieces : List (Piece (Marker × Text))}
    (unread : markers.read? (c :: t) = none) (h : IsCut pieces t) :
    IsCut (Piece.pushChar c pieces) (c :: t) := by
  have single : ¬ HasMarker [c] := not_hasMarker_cons unread not_hasMarker_nil
  cases h with
  | nil => exact .plain (List.cons_ne_nil c []) single not_beginPlain_nil .nil
  | @plain s t pieces nonempty none next h =>
    exact .plain (List.cons_ne_nil c s) (not_hasMarker_cons unread none) next h
  | found wellFormed spelling h =>
    exact .plain (List.cons_ne_nil c []) single (not_beginPlain_found _ _)
      (.found wellFormed spelling h)

/-- What the scan from left to right leaves is a cut. -/
theorem isCut_cut (template : Text) : IsCut (markers.cut template) template := by
  generalize size : template.length = n
  induction n using Nat.strongRecOn generalizing template with
  | _ n ih =>
    subst size
    cases template with
    | nil =>
      rw [markers.cut_nil]
      exact .nil
    | cons c s =>
      cases h : markers.read? (c :: s) with
      | none =>
        rw [markers.cut_cons_of_none h]
        exact IsCut.pushChar h (ih s.length (by simp) s rfl)
      | some out =>
        obtain ⟨⟨m, spelled⟩, r⟩ := out
        rw [markers.cut_of_read? h]
        have shorter := markers.shorter h
        obtain ⟨wellFormed, spelling, same⟩ := markers_read?_eq_some_iff.mp h
        rw [same] at shorter ⊢
        exact .found wellFormed spelling (ih r.length (by rw [same]; exact shorter) r rfl)

theorem cut_plain {s t : Text} (none : ¬ HasMarker s) (next : AtMarker t) :
    markers.cut (s ++ t) = Piece.pushText s (markers.cut t) := by
  induction s with
  | nil => rfl
  | cons c s ih =>
    have unread : markers.read? (c :: (s ++ t)) = Option.none := by
      by_contra read
      obtain ⟨⟨⟨m, spelled⟩, r⟩, read⟩ := Option.ne_none_iff_exists'.mp read
      obtain ⟨wellFormed, spelling, same⟩ := markers_read?_eq_some_iff.mp read
      obtain ⟨rest, inside⟩ :=
        spelling.within wellFormed (List.cons_ne_nil c s) next same
      exact none ⟨[], m, spelled, rest, wellFormed, spelling, inside⟩
    rw [List.cons_append, markers.cut_cons_of_none unread, ih fun h => none (h.cons c),
      Piece.pushText_cons]

theorem IsCut.atMarker {pieces : List (Piece (Marker × Text))} {t : Text} (h : IsCut pieces t)
    (next : ¬ Piece.BeginPlain pieces) : AtMarker t := by
  cases h with
  | nil => exact .inl rfl
  | plain => exact absurd ⟨_, _, rfl⟩ next
  | found wellFormed spelling h => exact .inr ⟨_, _, _, wellFormed, spelling, rfl⟩

/-- A cut of a text is the one that the scan finds. -/
theorem IsCut.cut_eq {pieces : List (Piece (Marker × Text))} {t : Text} (h : IsCut pieces t) :
    markers.cut t = pieces := by
  induction h with
  | nil => exact markers.cut_nil
  | plain nonempty none next h ih =>
    rw [cut_plain none (h.atMarker next), ih, Piece.pushText_of_not_beginPlain nonempty next]
  | found wellFormed spelling h ih =>
    rw [markers.cut_of_read? (markers_read?_eq_some_iff.mpr ⟨wellFormed, spelling, rfl⟩), ih]

end Folio.Template
