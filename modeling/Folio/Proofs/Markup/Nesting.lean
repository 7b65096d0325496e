import Folio.Text.Basic

/-! Sequences of opening and closing tags, read with a stack of the tags that are open. A sequence
is nested when every closing tag closes the innermost open tag and none is open at the end. -/
namespace Folio.Markup

inductive Tag
  | opens (name : Text)
  | closes (name : Text)
  deriving DecidableEq, Repr

namespace Tag

def name : Tag → Text
  | opens name => name
  | closes name => name

/-- What is open after a tag, the innermost first. -/
def step (stack : List Text) : Tag → Option (List Text)
  | opens name => some (name :: stack)
  | closes name =>
    match stack with
    | [] => none
    | top :: rest => if top = name then some rest else none

theorem step_closes {stack rest : List Text} {name : Text} :
    (closes name).step stack = some rest ↔ stack = name :: rest := by
  cases stack with
  | nil => simp [step]
  | cons top below =>
    by_cases same : top = name
    · simp [step, same]
    · simp [step, same]

end Tag

/-- What is open after a sequence of tags, unless one of them closes what is not innermost. -/
def openAfter (stack : List Text) : List Tag → Option (List Text)
  | [] => some stack
  | tag :: tags => (tag.step stack).bind fun stack => openAfter stack tags

def Nested (tags : List Tag) : Prop := openAfter [] tags = some []

instance (tags : List Tag) : Decidable (Nested tags) :=
  inferInstanceAs (Decidable (openAfter [] tags = some []))

/-- A pair of tags around others. -/
def enclose (name : Text) (tags : List Tag) : List Tag := .opens name :: (tags ++ [.closes name])

theorem filter_enclose (keep : Text → Bool) {name : Text} (kept : keep name = true)
    (tags : List Tag) :
    (enclose name tags).filter (fun tag => keep tag.name) =
      enclose name (tags.filter fun tag => keep tag.name) := by
  simp [enclose, Tag.name, kept]

section Reading

variable {stack rest : List Text} {tags : List Tag}

theorem openAfter_closes {name : Text} :
    openAfter stack (.closes name :: tags) = some rest ↔
      ∃ below, stack = name :: below ∧ openAfter below tags = some rest := by
  simp only [openAfter, Option.bind_eq_some_iff, Tag.step_closes]

theorem openAfter_append (stack : List Text) (tags more : List Tag) :
    openAfter stack (tags ++ more) =
      (openAfter stack tags).bind fun stack => openAfter stack more := by
  induction tags generalizing stack with
  | nil => rfl
  | cons tag tags ih =>
    rw [List.cons_append, openAfter, openAfter, Option.bind_assoc]
    exact congrArg _ (funext ih)

theorem openAfter_append_some {more : List Tag} :
    openAfter stack (tags ++ more) = some rest ↔
      ∃ middle, openAfter stack tags = some middle ∧ openAfter middle more = some rest := by
  rw [openAfter_append, Option.bind_eq_some_iff]

theorem openAfter_frame (h : openAfter stack tags = some rest) (outer : List Text) :
    openAfter (stack ++ outer) tags = some (rest ++ outer) := by
  induction tags generalizing stack with
  | nil =>
    cases h
    rfl
  | cons tag tags ih =>
    cases tag with
    | opens name => exact ih h
    | closes name =>
      obtain ⟨below, rfl, tail⟩ := openAfter_closes.mp h
      exact openAfter_closes.mpr ⟨below ++ outer, rfl, ih tail⟩

theorem eq_append_of_openAfter {inner : List Text} (empties : openAfter inner tags = some [])
    (h : openAfter stack tags = some rest) : stack = inner ++ rest := by
  induction tags generalizing inner stack with
  | nil =>
    cases empties
    cases h
    rfl
  | cons tag tags ih =>
    cases tag with
    | opens name => exact (List.cons.inj (ih empties h)).2
    | closes name =>
      obtain ⟨below, rfl, tail⟩ := openAfter_closes.mp empties
      -- the one tag is on top of both stacks
      obtain ⟨below', rfl, tail'⟩ := openAfter_closes.mp h
      rw [ih tail tail']
      rfl

/-- Tags without a given name leave an open tag of that name and all around it untouched. -/
theorem openAfter_below {name : Text} (absent : ∀ tag ∈ tags, tag.name ≠ name)
    {inner outer : List Text} (unnamed : name ∉ inner)
    (h : openAfter (inner ++ name :: outer) tags = some rest) :
    ∃ top, openAfter inner tags = some top ∧ name ∉ top ∧ rest = top ++ name :: outer := by
  induction tags generalizing inner with
  | nil =>
    cases h
    exact ⟨inner, rfl, unnamed, rfl⟩
  | cons tag tags ih =>
    have own : tag.name ≠ name := absent tag (by simp)
    have others : ∀ tag ∈ tags, tag.name ≠ name :=
      fun tag member => absent tag (List.mem_cons_of_mem _ member)
    cases tag with
    | opens other =>
      have still : name ∉ other :: inner := by
        intro member
        rcases List.mem_cons.mp member with same | member
        · exact own same.symm
        · exact unnamed member
      exact ih others still h
    | closes other =>
      obtain ⟨below, split, tail⟩ := openAfter_closes.mp h
      cases inner with
      | nil => exact absurd (List.cons.inj split).1.symm own
      | cons top inner =>
        obtain ⟨rfl, rfl⟩ := List.cons.inj split
        have still : name ∉ inner := fun member => unnamed (List.mem_cons_of_mem _ member)
        obtain ⟨left, reads, without, same⟩ := ih others still tail
        exact ⟨left, openAfter_closes.mpr ⟨inner, rfl, reads⟩, without, same⟩

end Reading

namespace Nested

variable {tags more : List Tag}

theorem nil : Nested [] := rfl

theorem openAfter_eq (h : Nested tags) (stack : List Text) : openAfter stack tags = some stack :=
  openAfter_frame h stack

theorem append (first : Nested tags) (second : Nested more) : Nested (tags ++ more) :=
  openAfter_append_some.mpr ⟨[], first, second⟩

theorem of_append (first : Nested tags) (both : Nested (tags ++ more)) : Nested more := by
  obtain ⟨middle, reads, tail⟩ := openAfter_append_some.mp both
  have closed : [] = middle := Option.some.inj (first.symm.trans reads)
  rwa [← closed] at tail

theorem enclose (name : Text) (h : Nested tags) : Nested (enclose name tags) := by
  have inside := h.openAfter_eq [name]
  exact openAfter_append_some.mpr ⟨[name], inside, openAfter_closes.mpr ⟨[], rfl, rfl⟩⟩

theorem flatMap {α : Type} {f : α → List Tag} {xs : List α} (all : ∀ x ∈ xs, Nested (f x)) :
    Nested (xs.flatMap f) := by
  induction xs with
  | nil => exact nil
  | cons x xs ih =>
    rw [List.flatMap_cons]
    exact (all x (by simp)).append (ih fun y member => all y (List.mem_cons_of_mem x member))

/-- Two sequences that nest in one order change nothing in the other order. -/
theorem eq_of_swap (h : Nested (tags ++ more)) {stack rest : List Text}
    (swapped : openAfter stack (more ++ tags) = some rest) : rest = stack := by
  obtain ⟨inner, opened, closed⟩ := openAfter_append_some.mp h
  obtain ⟨middle, reads, tail⟩ := openAfter_append_some.mp swapped
  have split : stack = inner ++ middle := eq_append_of_openAfter closed reads
  have again : openAfter middle tags = some (inner ++ middle) := openAfter_frame opened middle
  rw [split]
  exact Option.some.inj (tail.symm.trans again)

/-- A pair of tags around tags of other names closes properly only around nested ones. -/
theorem of_enclose_infix {name : Text} (absent : ∀ tag ∈ tags, tag.name ≠ name)
    {whole : List Tag} (inside : Markup.enclose name tags <:+: whole) (h : Nested whole) :
    Nested tags := by
  obtain ⟨before, after, rfl⟩ := inside
  obtain ⟨all, reads, _⟩ := openAfter_append_some.mp h
  obtain ⟨outer, _, pair⟩ := openAfter_append_some.mp reads
  obtain ⟨last, opened, closed⟩ := openAfter_append_some.mp
    (show openAfter (name :: outer) (tags ++ [.closes name]) = some all from pair)
  obtain ⟨top, inner, unnamed, split⟩ :=
    openAfter_below absent List.not_mem_nil
      (show openAfter ([] ++ name :: outer) tags = some last from opened)
  obtain ⟨below, head, _⟩ := openAfter_closes.mp closed
  -- the innermost tag at the end is the pair's own, so nothing is open inside it
  cases top with
  | nil => exact inner
  | cons other top =>
    rw [split] at head
    have same : other = name := (List.cons.inj head).1
    exact absurd (by simp [same]) unnamed

end Nested

end Folio.Markup
