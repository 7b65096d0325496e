import Folio.Text.Blank
import Folio.Text.Class
import Mathlib.Data.List.TakeWhile
import Mathlib.Tactic.IntervalCases

/-! What the scanning primitives read, as equations between texts. -/
namespace Folio.Text

section Run

variable {α : Type} {test : α → Bool}

/-- A list that does not begin with an element of the given kind. -/
def Stops (test : α → Bool) (xs : List α) : Prop := ∀ x ∈ xs.head?, test x = false

theorem stops_nil (test : α → Bool) : Stops test [] := by
  intro x hx
  cases hx

theorem stops_cons {x : α} {xs : List α} : Stops test (x :: xs) ↔ test x = false := by
  simp [Stops]

theorem stops_append {xs ys : List α} (other : ∀ x ∈ xs, test x = false)
    (stops : Stops test ys) : Stops test (xs ++ ys) := by
  cases xs with
  | nil => exact stops
  | cons x xs => exact stops_cons.mpr (other x (by simp))

theorem stops_append_of_ne_nil {xs : List α} (nonempty : xs ≠ [])
    (other : ∀ x ∈ xs, test x = false) (ys : List α) : Stops test (xs ++ ys) := by
  cases xs with
  | nil => exact absurd rfl nonempty
  | cons x xs => exact stops_cons.mpr (other x (by simp))

theorem dropWhile_append_of_stops {xs ys : List α} (all : ∀ x ∈ xs, test x = true)
    (stops : Stops test ys) : (xs ++ ys).dropWhile test = ys := by
  rw [List.dropWhile_append_of_pos all]
  cases ys with
  | nil => rfl
  | cons y ys => simp [stops_cons.mp stops]

theorem takeWhile_append_of_stops {xs ys : List α} (all : ∀ x ∈ xs, test x = true)
    (stops : Stops test ys) : (xs ++ ys).takeWhile test = xs := by
  rw [List.takeWhile_append_of_pos all]
  cases ys with
  | nil => simp
  | cons y ys => simp [stops_cons.mp stops]

theorem stops_dropWhile (test : α → Bool) (xs : List α) : Stops test (xs.dropWhile test) := by
  induction xs with
  | nil => exact stops_nil test
  | cons x xs ih =>
    by_cases h : test x = true
    · simpa [h] using ih
    · simp [h, Stops]

theorem Stops.of_begins {xs ys : List α} (stops : Stops test ys) (begins : xs <+: ys) :
    Stops test xs := by
  obtain ⟨rest, rfl⟩ := begins
  cases xs with
  | nil => exact stops_nil test
  | cons x xs => exact stops_cons.mpr (stops_cons.mp stops)

theorem dropWhile_eq_self {xs : List α} (stops : Stops test xs) : xs.dropWhile test = xs :=
  dropWhile_append_of_stops (List.forall_mem_nil _) stops

end Run

/-- White space of any length. -/
def Blank (w : Text) : Prop := ∀ c ∈ w, isBlank c = true

def Gap (w : Text) : Prop := w ≠ [] ∧ Blank w

theorem run?_eq_some_iff {test : Char → Bool} {s run rest : Text} :
    run? test s = some (run, rest) ↔
      s = run ++ rest ∧ run ≠ [] ∧ (∀ c ∈ run, test c = true) ∧ Stops test rest := by
  constructor
  · intro h
    refine ⟨run?_eq_some h, ?_⟩
    unfold run? at h
    split at h
    · contradiction
    · rename_i c cs taken
      cases h
      have all : ∀ x ∈ c :: cs, test x = true := by
        rw [← taken]
        exact fun x hx => List.mem_takeWhile_imp hx
      exact ⟨List.cons_ne_nil c cs, all, stops_dropWhile test s⟩
  · rintro ⟨rfl, nonempty, all, stops⟩
    unfold run?
    rw [takeWhile_append_of_stops all stops, dropWhile_append_of_stops all stops]
    cases run with
    | nil => exact absurd rfl nonempty
    | cons c cs => rfl

theorem forall_bne_iff {x : Char} {s : Text} : (∀ c ∈ s, (c != x) = true) ↔ x ∉ s := by
  simp only [bne_iff_ne]
  exact ⟨fun all member => all x member rfl, fun absent c member same => absent (same ▸ member)⟩

theorem stripLeft_append {w s : Text} (blank : Blank w) (stops : Stops isBlank s) :
    stripLeft (w ++ s) = s :=
  dropWhile_append_of_stops blank stops

theorem exists_blank_append_stripLeft (s : Text) :
    ∃ w, Blank w ∧ s = w ++ stripLeft s :=
  ⟨s.takeWhile isBlank, fun _ hc => List.mem_takeWhile_imp hc,
    (List.takeWhile_append_dropWhile).symm⟩

theorem exists_append_blank_stripRight (s : Text) : ∃ w, Blank w ∧ s = stripRight s ++ w := by
  refine ⟨(s.reverse.takeWhile isBlank).reverse, ?_, ?_⟩
  · intro c hc
    exact List.mem_takeWhile_imp (List.mem_reverse.mp hc)
  · rw [stripRight, dropEndWhile, ← List.reverse_append, List.takeWhile_append_dropWhile,
      List.reverse_reverse]

theorem stripLeft_eq_self {s : Text} (stops : Stops isBlank s) : stripLeft s = s :=
  dropWhile_eq_self stops

theorem stripRight_stripRight (s : Text) : stripRight (stripRight s) = stripRight s := by
  rw [stripRight, dropEndWhile, stripRight, dropEndWhile, List.reverse_reverse]
  exact congrArg List.reverse (stripLeft_eq_self (stops_dropWhile isBlank s.reverse))

theorem stops_strip (s : Text) : Stops isBlank (strip s) := by
  obtain ⟨w, -, whole⟩ := exists_append_blank_stripRight (stripLeft s)
  exact (stops_dropWhile isBlank s).of_begins ⟨w, whole.symm⟩

theorem strip_strip (s : Text) : s.strip.strip = s.strip := by
  rw [strip, stripLeft_eq_self (stops_strip s)]
  exact stripRight_stripRight (stripLeft s)

theorem splitOn_ne_nil (separator : Char) (s : Text) : splitOn separator s ≠ [] := by
  cases s with
  | nil => exact List.cons_ne_nil _ _
  | cons c s =>
    rw [splitOn]
    split
    · exact List.cons_ne_nil _ _
    · split <;> exact List.cons_ne_nil _ _

theorem splitOn_of_not_mem {separator : Char} {s : Text} (absent : separator ∉ s) :
    splitOn separator s = [s] := by
  induction s with
  | nil => rfl
  | cons c s ih =>
    obtain ⟨other, absent⟩ := List.ne_and_not_mem_of_not_mem_cons absent
    rw [splitOn, if_neg other.symm, ih absent]

theorem not_mem_of_mem_splitOn {separator : Char} {s piece : Text}
    (member : piece ∈ splitOn separator s) : separator ∉ piece := by
  induction s using splitOn.induct separator generalizing piece with
  | case1 =>
    rw [List.mem_singleton.mp member]
    exact List.not_mem_nil
  | case2 s ih =>
    rw [splitOn, if_pos rfl] at member
    rcases List.mem_cons.mp member with rfl | later
    · exact List.not_mem_nil
    · exact ih later
  | case3 c s other none ih => exact absurd none (splitOn_ne_nil separator s)
  | case4 c s other first pieces cut ih =>
    rw [splitOn, if_neg other, cut] at member
    rw [cut] at ih
    rcases List.mem_cons.mp member with rfl | later
    · exact List.not_mem_cons_of_ne_of_not_mem (Ne.symm other) (ih (by simp))
    · exact ih (List.mem_cons_of_mem first later)

theorem cutAt?_eq_some_iff {separator : Char} {s before after : Text} :
    cutAt? separator s = some (before, after) ↔
      s = before ++ separator :: after ∧ separator ∉ before := by
  induction s generalizing before after with
  | nil => simp [cutAt?]
  | cons c s ih =>
    rw [cutAt?]
    by_cases here : c = separator
    · subst here
      cases before with
      | nil => simp
      | cons d before =>
        refine iff_of_false (by simp) ?_
        rintro ⟨same, absent⟩
        exact absent (by simp [(List.cons.inj same).1])
    · rw [if_neg here]
      cases before with
      | nil => simp [here]
      | cons d before =>
        simp only [Option.map_eq_some_iff, Prod.exists, ih, Prod.mk.injEq, List.cons_append,
          List.cons.injEq, List.mem_cons, not_or]
        constructor
        · rintro ⟨_, _, ⟨rfl, absent⟩, ⟨rfl, rfl⟩, rfl⟩
          exact ⟨⟨rfl, rfl⟩, Ne.symm here, absent⟩
        · rintro ⟨⟨rfl, rfl⟩, -, absent⟩
          exact ⟨before, after, ⟨rfl, absent⟩, ⟨rfl, rfl⟩, rfl⟩

theorem cutAtLast?_eq_some_iff {separator : Char} {s before after : Text} :
    cutAtLast? separator s = some (before, after) ↔
      s = before ++ separator :: after ∧ separator ∉ after := by
  have mirrored : s = before ++ separator :: after ↔
      s.reverse = after.reverse ++ separator :: before.reverse := by
    rw [← List.reverse_inj]
    simp
  rw [mirrored, ← List.mem_reverse, ← cutAt?_eq_some_iff, cutAtLast?, Option.map_eq_some_iff]
  constructor
  · rintro ⟨⟨_, _⟩, cut, same⟩
    cases same
    simpa using cut
  · intro cut
    exact ⟨_, cut, by simp⟩

/-- No character of a word is white space. -/
theorem isWord_of_isBlank {c : Char} (h : isBlank c = true) : isWord c = false := by
  have underscore : (c == '_') = false := by
    by_contra hc
    simp only [Bool.not_eq_false, beq_iff_eq] at hc
    subst hc
    exact absurd h (by decide)
  have outside : CodeRange.contains Table.word c.toNat = false := by
    simp only [isBlank, Bool.or_eq_true, Bool.and_eq_true, decide_eq_true_eq, beq_iff_eq,
      or_assoc] at h
    generalize c.toNat = n at h
    rcases h with ⟨low, high⟩ | ⟨low, high⟩ | rfl | rfl | rfl | ⟨low, high⟩ | h
    · interval_cases n <;> decide +kernel
    · interval_cases n <;> decide +kernel
    · decide +kernel
    · decide +kernel
    · decide +kernel
    · interval_cases n <;> decide +kernel
    · rcases h with rfl | rfl | rfl | rfl | rfl <;> decide +kernel
  simp [isWord, underscore, outside]

end Folio.Text
