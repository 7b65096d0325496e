/-! Text as a list of characters, with the cuts and joins that the other modules share. -/
namespace Folio

/-- Text is handled as its list of characters; a length counts code points. -/
abbrev Text := List Char

namespace Text

def dropPrefix? : Text → Text → Option Text
  | [], s => some s
  | p :: ps, c :: cs => if p = c then dropPrefix? ps cs else none
  | _ :: _, [] => none

theorem dropPrefix?_eq_some {p s r : Text} : dropPrefix? p s = some r ↔ s = p ++ r := by
  induction p generalizing s with
  | nil => simp [dropPrefix?, eq_comm]
  | cons a p ih =>
    cases s with
    | nil => simp [dropPrefix?]
    | cons c s =>
      by_cases h : a = c
      · simp [dropPrefix?, h, ih]
      · simp [dropPrefix?, h, Ne.symm h]

theorem length_of_dropPrefix? {p s r : Text} (h : dropPrefix? p s = some r) :
    r.length ≤ s.length := by
  simp [dropPrefix?_eq_some.1 h]

/-- The longest beginning of characters that satisfy a test, if there is one, and the rest. -/
def run? (test : Char → Bool) (s : Text) : Option (Text × Text) :=
  match s.takeWhile test with
  | [] => none
  | c :: cs => some (c :: cs, s.dropWhile test)

theorem run?_eq_some {test : Char → Bool} {s run rest : Text} (h : run? test s = some (run, rest)) :
    s = run ++ rest := by
  unfold run? at h
  split at h
  · contradiction
  · rename_i taken
    cases h
    rw [← taken, List.takeWhile_append_dropWhile]

theorem length_of_run? {test : Char → Bool} {s run rest : Text}
    (h : run? test s = some (run, rest)) : rest.length < s.length := by
  have lengths := congrArg List.length (run?_eq_some h)
  unfold run? at h
  split at h
  · contradiction
  · cases h
    simp only [List.length_append, List.length_cons] at lengths
    omega

/-- The pieces between the occurrences of a separator; there is always at least one. -/
def splitOn (separator : Char) : Text → List Text
  | [] => [[]]
  | c :: s =>
    if c = separator then [] :: splitOn separator s
    else match splitOn separator s with
      | [] => [[c]]
      | piece :: pieces => (c :: piece) :: pieces

def cutAt? (separator : Char) : Text → Option (Text × Text)
  | [] => none
  | c :: s =>
    if c = separator then some ([], s)
    else (cutAt? separator s).map fun (before, after) => (c :: before, after)

def cutAtLast? (separator : Char) (s : Text) : Option (Text × Text) :=
  (cutAt? separator s.reverse).map fun (after, before) => (before.reverse, after.reverse)

def join (separator : Text) (pieces : List Text) : Text := List.intercalate separator pieces

/-- Order by code points, a beginning before its continuations. -/
def le : Text → Text → Bool
  | [], _ => true
  | _ :: _, [] => false
  | a :: s, b :: t => a.toNat < b.toNat || (a.toNat == b.toNat && le s t)

/-- Drops the longest ending whose items all satisfy a test. -/
def dropEndWhile {α : Type} (test : α → Bool) (s : List α) : List α :=
  (s.reverse.dropWhile test).reverse

end Text

end Folio
