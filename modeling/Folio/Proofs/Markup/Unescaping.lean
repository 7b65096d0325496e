import Folio.Proofs.Markup.Lines
import Mathlib.Data.List.Basic

/-! Escaped text read back: an entity stands for its character and every other character for
itself. -/
namespace Folio.Markup

open Text (Pattern dropPrefix? dropPrefix?_eq_some)

def entityMeanings : List (Text × Char) :=
  [("&amp;".toList, '&'), ("&lt;".toList, '<'), ("&gt;".toList, '>')]

def entityPattern : Pattern Char where
  read? s := entityMeanings.findSome? fun (entity, c) =>
    (dropPrefix? entity s).map fun rest => (c, rest)
  shorter := by
    intro s rest c h
    have positive : ∀ meaning ∈ entityMeanings, 0 < meaning.1.length := by decide
    obtain ⟨meaning, member, found⟩ := List.exists_of_findSome?_eq_some h
    obtain ⟨_, behind, out⟩ := Option.map_eq_some_iff.mp found
    cases out
    rw [dropPrefix?_eq_some.mp behind, List.length_append]
    have := positive meaning member
    omega

/-- All entities are replaced at once, so that none is made of what another left. -/
def unescape (s : Text) : Text := entityPattern.replace (fun c => [c]) s

theorem unescape_nil : unescape [] = [] := entityPattern.replace_nil _

theorem unescape_entity {entity : Text} {c : Char} (member : (entity, c) ∈ entityMeanings)
    (s : Text) : unescape (entity ++ s) = c :: unescape s := by
  have read : entityPattern.read? (entity ++ s) = some (c, s) := by
    simp only [entityMeanings, List.mem_cons, List.not_mem_nil, or_false] at member
    rcases member with same | same | same <;> cases same <;> rfl
  exact entityPattern.replace_of_read? _ read

theorem unescape_cons {c : Char} (plain : c ≠ '&') (s : Text) :
    unescape (c :: s) = c :: unescape s := by
  have unread : entityPattern.read? (c :: s) = none := by
    simp [entityPattern, entityMeanings, dropPrefix?, Ne.symm plain]
  exact entityPattern.replace_cons_of_none _ unread

theorem escapeChar_cases (c : Char) :
    (escapeChar c, c) ∈ entityMeanings ∨
      (c ≠ '&' ∧ c ≠ '<' ∧ c ≠ '>') ∧ escapeChar c = [c] := by
  by_cases amp : c = '&'
  · subst amp
    exact .inl (by decide)
  · by_cases less : c = '<'
    · subst less
      exact .inl (by decide)
    · by_cases greater : c = '>'
      · subst greater
        exact .inl (by decide)
      · exact .inr ⟨⟨amp, less, greater⟩, by simp [escapeChar, amp, less, greater]⟩

theorem unescape_escapeChar_append (c : Char) (s : Text) :
    unescape (escapeChar c ++ s) = c :: unescape s := by
  rcases escapeChar_cases c with entity | ⟨⟨amp, _⟩, self⟩
  · exact unescape_entity entity s
  · rw [self]
    exact unescape_cons amp s

theorem unescape_escape (s : Text) : unescape (escape s) = s := by
  induction s with
  | nil => exact unescape_nil
  | cons c s ih =>
    have step := unescape_escapeChar_append c (escape s)
    rw [ih] at step
    exact step

theorem escape_injective : Function.Injective escape :=
  Function.LeftInverse.injective unescape_escape

theorem escape_append (s t : Text) : escape (s ++ t) = escape s ++ escape t :=
  List.flatMap_append

/-- A text in which one character is replaced wherever it stands. -/
def replaceEach (c : Char) (entity s : Text) : Text :=
  s.flatMap fun d => if d = c then entity else [d]

/-- Three replacements one after the other make the same text, if ampersands come first: the
entities of the later two bring no angle bracket and their ampersands are not looked at again. -/
theorem escape_eq_replacements (s : Text) :
    escape s = replaceEach '>' "&gt;".toList
      (replaceEach '<' "&lt;".toList (replaceEach '&' "&amp;".toList s)) := by
  unfold escape replaceEach
  rw [List.flatMap_assoc, List.flatMap_assoc]
  apply List.flatMap_congr
  intro c _
  rcases escapeChar_cases c with entity | ⟨⟨amp, less, greater⟩, self⟩
  · simp only [entityMeanings, List.mem_cons, List.not_mem_nil, or_false, Prod.mk.injEq] at entity
    rcases entity with ⟨_, rfl⟩ | ⟨_, rfl⟩ | ⟨_, rfl⟩ <;> decide
  · simp only [self, if_neg amp, if_neg less, if_neg greater, List.flatMap_singleton]

end Folio.Markup
