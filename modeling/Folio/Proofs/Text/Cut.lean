import Folio.Text.Pattern

/-! Equations for the cut of a text at the finds of a pattern. -/
namespace Folio.Text

variable {α : Type}

namespace Piece

def BeginPlain (pieces : List (Piece α)) : Prop := ∃ s rest, pieces = .plain s :: rest

def pushText (s : Text) (pieces : List (Piece α)) : List (Piece α) := s.foldr pushChar pieces

@[simp] theorem pushText_nil (pieces : List (Piece α)) : pushText [] pieces = pieces := rfl

@[simp] theorem pushText_cons (c : Char) (s : Text) (pieces : List (Piece α)) :
    pushText (c :: s) pieces = pushChar c (pushText s pieces) := rfl

theorem pushChar_of_not_beginPlain {pieces : List (Piece α)} (h : ¬ BeginPlain pieces)
    (c : Char) : pushChar c pieces = .plain [c] :: pieces := by
  cases pieces with
  | nil => rfl
  | cons piece pieces =>
    cases piece with
    | plain s => exact absurd ⟨s, pieces, rfl⟩ h
    | found a => rfl

theorem pushText_plain (s t : Text) (pieces : List (Piece α)) :
    pushText s (.plain t :: pieces) = .plain (s ++ t) :: pieces := by
  induction s with
  | nil => rfl
  | cons c s ih => rw [pushText_cons, ih]; rfl

theorem pushText_of_not_beginPlain {s : Text} (nonempty : s ≠ []) {pieces : List (Piece α)}
    (h : ¬ BeginPlain pieces) : pushText s pieces = .plain s :: pieces := by
  induction s with
  | nil => exact absurd rfl nonempty
  | cons c s ih =>
    cases s with
    | nil => exact pushChar_of_not_beginPlain h c
    | cons d s => rw [pushText_cons, ih (List.cons_ne_nil d s)]; rfl

def found? : Piece α → Option α
  | .plain _ => none
  | .found a => some a

/-- A piece as it stands in the text, from the spelling of the finds. -/
def spelled (spell : α → Text) : Piece α → Text
  | .plain s => s
  | .found a => spell a

def Holds (P : Text → Prop) (Q : α → Prop) : Piece α → Prop
  | .plain s => P s
  | .found a => Q a

theorem holds_pushText {P : Text → Prop} {Q : α → Prop} {s : Text} (self : P s)
    (append : ∀ t, P t → P (s ++ t)) {pieces : List (Piece α)}
    (all : ∀ piece ∈ pieces, piece.Holds P Q) : ∀ piece ∈ pushText s pieces, piece.Holds P Q := by
  by_cases empty : s = []
  · subst empty
    exact all
  · by_cases begins : BeginPlain pieces
    · obtain ⟨t, rest, rfl⟩ := begins
      rw [pushText_plain]
      intro piece member
      rcases List.mem_cons.mp member with rfl | member
      · exact append t (all (.plain t) (by simp))
      · exact all piece (List.mem_cons_of_mem _ member)
    · rw [pushText_of_not_beginPlain empty begins]
      intro piece member
      rcases List.mem_cons.mp member with rfl | member
      · exact self
      · exact all piece member

end Piece

namespace Pattern

variable (p : Pattern α)

@[simp] theorem cut_nil : p.cut [] = [] := by
  rw [cut]

theorem read?_nil : p.read? [] = none := by
  cases h : p.read? [] with
  | none => rfl
  | some found => exact absurd (p.shorter h) (Nat.not_lt_zero _)

theorem cut_of_read? {s r : Text} {a : α} (h : p.read? s = some (a, r)) :
    p.cut s = .found a :: p.cut r := by
  cases s with
  | nil =>
    rw [p.read?_nil] at h
    cases h
  | cons c s =>
    rw [cut]
    split
    · rename_i b t found
      rw [h] at found
      cases found
      rfl
    · rename_i none
      rw [h] at none
      cases none

theorem cut_cons_of_none {c : Char} {s : Text} (h : p.read? (c :: s) = none) :
    p.cut (c :: s) = Piece.pushChar c (p.cut s) := by
  rw [cut]
  split
  · rename_i b t found
    rw [h] at found
    cases found
  · rfl

/-- A text is searched from its front: nothing is read there and the search goes on behind the first
character, or it goes on behind what is read. -/
@[elab_as_elim]
theorem searchInduction {motive : Text → Prop} (nil : motive [])
    (unread : ∀ c s, p.read? (c :: s) = none → motive s → motive (c :: s))
    (read : ∀ s a r, p.read? s = some (a, r) → motive r → motive s) (s : Text) : motive s := by
  generalize size : s.length = n
  induction n using Nat.strongRecOn generalizing s with
  | _ n ih =>
    subst size
    cases s with
    | nil => exact nil
    | cons c s =>
      cases found : p.read? (c :: s) with
      | none => exact unread c s found (ih s.length (by simp) s rfl)
      | some out =>
        obtain ⟨a, r⟩ := out
        exact read (c :: s) a r found (ih r.length (p.shorter found) r rfl)

/-- A pattern that begins with one character reads nothing at the characters of a text without
it. -/
theorem unread_of_not_mem {x : Char} (starts : ∀ c s, c ≠ x → p.read? (c :: s) = none) {w : Text}
    (absent : x ∉ w) : ∀ c ∈ w, ∀ t, p.read? (c :: t) = none := by
  intro c member t
  apply starts c t
  rintro rfl
  exact absent member

theorem cut_append {s : Text} (quiet : ∀ c ∈ s, ∀ t, p.read? (c :: t) = none) (t : Text) :
    p.cut (s ++ t) = Piece.pushText s (p.cut t) := by
  induction s with
  | nil => rfl
  | cons c s ih =>
    have rest := ih fun d hd => quiet d (List.mem_cons_of_mem c hd)
    rw [List.cons_append, p.cut_cons_of_none (quiet c (by simp) (s ++ t)), rest,
      Piece.pushText_cons]

theorem replace_nil (write : α → Text) : p.replace write [] = [] := by
  simp [replace]

theorem replace_cons_of_none {c : Char} {s : Text} (write : α → Text)
    (h : p.read? (c :: s) = none) : p.replace write (c :: s) = c :: p.replace write s := by
  unfold replace
  rw [p.cut_cons_of_none h]
  cases p.cut s with
  | nil => rfl
  | cons piece pieces => cases piece <;> rfl

theorem replace_of_read? {s r : Text} {a : α} (write : α → Text) (h : p.read? s = some (a, r)) :
    p.replace write s = write a ++ p.replace write r := by
  unfold replace
  rw [p.cut_of_read? h]
  rfl

theorem replace_append {s : Text} (write : α → Text)
    (quiet : ∀ c ∈ s, ∀ t, p.read? (c :: t) = none) (t : Text) :
    p.replace write (s ++ t) = s ++ p.replace write t := by
  induction s with
  | nil => rfl
  | cons c s ih =>
    have rest := ih fun d hd => quiet d (List.mem_cons_of_mem c hd)
    rw [List.cons_append, p.replace_cons_of_none write (quiet c (by simp) (s ++ t)), rest]
    rfl

theorem replace_of_unread {s : Text} (write : α → Text)
    (quiet : ∀ c ∈ s, ∀ t, p.read? (c :: t) = none) : p.replace write s = s := by
  have alone := p.replace_append write quiet []
  rwa [replace_nil, List.append_nil] at alone

/-- All that a pattern finds in a text, in order. -/
def finds (p : Pattern α) (s : Text) : List α := (p.cut s).filterMap Piece.found?

theorem finds_nil : p.finds [] = [] := by
  simp [finds]

theorem finds_of_read? {s r : Text} {a : α} (h : p.read? s = some (a, r)) :
    p.finds s = a :: p.finds r := by
  simp [finds, p.cut_of_read? h, Piece.found?]

theorem finds_cons_of_none {c : Char} {s : Text} (h : p.read? (c :: s) = none) :
    p.finds (c :: s) = p.finds s := by
  unfold finds
  rw [p.cut_cons_of_none h]
  cases p.cut s with
  | nil => rfl
  | cons piece pieces => cases piece <;> rfl

theorem finds_append {s : Text} (quiet : ∀ c ∈ s, ∀ t, p.read? (c :: t) = none) (t : Text) :
    p.finds (s ++ t) = p.finds t := by
  induction s with
  | nil => rfl
  | cons c s ih =>
    rw [List.cons_append, p.finds_cons_of_none (quiet c (by simp) (s ++ t)),
      ih fun d member => quiet d (List.mem_cons_of_mem c member)]

theorem finds_of_unread {s : Text} (quiet : ∀ c ∈ s, ∀ t, p.read? (c :: t) = none) :
    p.finds s = [] := by
  have alone := p.finds_append quiet []
  rwa [finds_nil, List.append_nil] at alone

/-- Nothing is found in a text exactly if the pattern reads nothing at any place of it. -/
theorem finds_eq_nil_iff {s : Text} :
    p.finds s = [] ↔ ∀ before behind, s = before ++ behind → p.read? behind = none := by
  induction s with
  | nil =>
    constructor
    · intro _ before behind same
      obtain ⟨_, rfl⟩ := List.append_eq_nil_iff.mp same.symm
      exact p.read?_nil
    · intro _
      exact p.finds_nil
  | cons c s ih =>
    cases found : p.read? (c :: s) with
    | some out =>
      obtain ⟨a, r⟩ := out
      constructor
      · intro none
        rw [p.finds_of_read? found] at none
        cases none
      · intro none
        rw [none [] (c :: s) rfl] at found
        cases found
    | none =>
      rw [p.finds_cons_of_none found, ih]
      constructor
      · rintro none (_ | ⟨d, before⟩) behind same
        · rw [List.nil_append] at same
          rw [← same]
          exact found
        · exact none before behind (List.cons.inj same).2
      · rintro none before behind rfl
        exact none (c :: before) behind rfl

theorem replace_of_finds_eq_nil {s : Text} (write : α → Text) (none : p.finds s = []) :
    p.replace write s = s := by
  have unread := p.finds_eq_nil_iff.mp none
  induction s with
  | nil => exact p.replace_nil _
  | cons c s ih =>
    have head := unread [] (c :: s) rfl
    have rest : p.finds s = [] := by rwa [p.finds_cons_of_none head] at none
    rw [p.replace_cons_of_none write head, ih rest (p.finds_eq_nil_iff.mp rest)]

/-- The pieces of a text make it up again, each find in its spelling. -/
theorem replace_spell {spell : α → Text}
    (spelled : ∀ s a r, p.read? s = some (a, r) → s = spell a ++ r) (s : Text) :
    p.replace spell s = s := by
  induction s using p.searchInduction with
  | nil => exact p.replace_nil _
  | unread c s found ih => rw [p.replace_cons_of_none spell found, ih]
  | read s a r found ih =>
    rw [p.replace_of_read? spell found, ih]
    exact (spelled s a r found).symm

theorem replace_eq_flatMap (write : α → Text) (s : Text) :
    p.replace write s = (p.cut s).flatMap (Piece.spelled write) := by
  refine congrArg (fun f => (p.cut s).flatMap f) (funext fun piece => ?_)
  cases piece <;> rfl

theorem flatMap_spelled_cut {spell : α → Text}
    (spelled : ∀ s a r, p.read? s = some (a, r) → s = spell a ++ r) (s : Text) :
    (p.cut s).flatMap (Piece.spelled spell) = s :=
  (p.replace_eq_flatMap spell s).symm.trans (p.replace_spell spelled s)

end Pattern

end Folio.Text
