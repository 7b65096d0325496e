import Folio.Proofs.Markup.Nesting
import Folio.Proofs.Markup.Tags

/-! The tags that stand in a converted text, read off the text from left to right. -/
namespace Folio.Markup

open Text (Pattern Blank isBlank dropPrefix? run? dropPrefix?_eq_some run?_eq_some_iff)

def readClosing? (s : Text) : Option (Tag × Text) := do
  let s ← dropPrefix? ['<', '/'] s
  let (name, s) ← run? Char.isAlphanum s
  let s ← dropPrefix? ['>'] s
  return (.closes name, s)

/-- The opening tag of a link ends where its address begins. -/
def readOpening? (s : Text) : Option (Tag × Text) := do
  let s ← dropPrefix? ['<'] s
  let (name, s) ← run? Char.isAlphanum s
  let s ← (dropPrefix? ['>'] s).or (dropPrefix? " href=\"".toList s)
  return (.opens name, s)

theorem readClosing?_eq_some_iff {s r : Text} {tag : Tag} :
    readClosing? s = some (tag, r) ↔
      ∃ name, name ≠ [] ∧ (∀ c ∈ name, c.isAlphanum = true) ∧ tag = .closes name ∧
        s = ['<', '/'] ++ (name ++ (['>'] ++ r)) := by
  simp only [readClosing?, Option.bind_eq_bind, Option.bind_eq_some_iff, Option.pure_def,
    Prod.exists, dropPrefix?_eq_some, run?_eq_some_iff]
  constructor
  · rintro ⟨_, rfl, name, _, ⟨rfl, nonempty, all, _⟩, _, rfl, out⟩
    cases out
    exact ⟨name, nonempty, all, rfl, rfl⟩
  · rintro ⟨name, nonempty, all, rfl, rfl⟩
    exact ⟨_, rfl, name, _, ⟨rfl, nonempty, all, Text.stops_cons.mpr (by decide)⟩, _, rfl, rfl⟩

theorem readOpening?_eq_some {s r : Text} {tag : Tag} (h : readOpening? s = some (tag, r)) :
    ∃ name, name ≠ [] ∧ (∀ c ∈ name, c.isAlphanum = true) ∧ tag = .opens name ∧
      (s = ['<'] ++ (name ++ (['>'] ++ r)) ∨ s = ['<'] ++ (name ++ (" href=\"".toList ++ r))) := by
  simp only [readOpening?, Option.bind_eq_bind, Option.bind_eq_some_iff, Option.pure_def,
    Prod.exists, Option.or_eq_some_iff, dropPrefix?_eq_some, run?_eq_some_iff] at h
  obtain ⟨_, rfl, name, _, ⟨rfl, nonempty, all, _⟩, _, ending, out⟩ := h
  cases out
  rcases ending with rfl | ⟨_, rfl⟩
  · exact ⟨name, nonempty, all, rfl, .inl rfl⟩
  · exact ⟨name, nonempty, all, rfl, .inr rfl⟩

def tagPattern : Pattern Tag where
  read? s := (readClosing? s).or (readOpening? s)
  shorter := by
    intro s rest tag h
    rcases Option.or_eq_some_iff.mp h with closing | ⟨_, opening⟩
    · obtain ⟨name, _, _, _, rfl⟩ := readClosing?_eq_some_iff.mp closing
      simp only [List.length_append, List.length_cons]
      omega
    · obtain ⟨name, _, _, _, rfl | rfl⟩ := readOpening?_eq_some opening
      · simp only [List.length_append, List.length_cons]
        omega
      · simp only [List.length_append, List.length_cons]
        omega

def tagsOf (s : Text) : List Tag := tagPattern.finds s

theorem tagsOf_nil : tagsOf [] = [] := tagPattern.finds_nil

theorem tagPattern_starts (c : Char) (s : Text) (other : c ≠ '<') :
    tagPattern.read? (c :: s) = none := by
  simp [tagPattern, readClosing?, readOpening?, dropPrefix?, Ne.symm other]

theorem tagsOf_append_of_not_mem {s : Text} (open_ : '<' ∉ s) (t : Text) :
    tagsOf (s ++ t) = tagsOf t :=
  tagPattern.finds_append (tagPattern.unread_of_not_mem tagPattern_starts open_) t

theorem tagsOf_of_not_mem {s : Text} (open_ : '<' ∉ s) : tagsOf s = [] :=
  tagPattern.finds_of_unread (tagPattern.unread_of_not_mem tagPattern_starts open_)

theorem elementNames_alphanum : ∀ name ∈ elementNames,
    name.toList ≠ [] ∧ ∀ c ∈ name.toList, c.isAlphanum = true := by
  have checked : elementNames.all (fun name =>
      !name.toList.isEmpty && name.toList.all Char.isAlphanum) = true := by decide +kernel
  simpa using checked

theorem tagsOf_closeTag {name : String} (member : name ∈ elementNames) (s : Text) :
    tagsOf (closeTag name ++ s) = .closes name.toList :: tagsOf s := by
  obtain ⟨nonempty, all⟩ := elementNames_alphanum name member
  have closing : readClosing? (closeTag name ++ s) = some (.closes name.toList, s) :=
    readClosing?_eq_some_iff.mpr ⟨name.toList, nonempty, all, rfl, by simp [closeTag]⟩
  exact tagPattern.finds_of_read? (by simp [tagPattern, closing])

theorem readClosing?_open {name : Text} (nonempty : name ≠ [])
    (all : ∀ c ∈ name, c.isAlphanum = true) (s : Text) :
    readClosing? (['<'] ++ (name ++ s)) = none := by
  obtain ⟨c, rest, rfl⟩ := List.exists_cons_of_ne_nil nonempty
  have letter := all c (by simp)
  have slash : ¬ '/' = c := by
    rintro rfl
    exact absurd letter (by decide)
  simp [readClosing?, dropPrefix?, slash]

theorem readOpening?_of_name {name s r : Text} (nonempty : name ≠ [])
    (all : ∀ c ∈ name, c.isAlphanum = true) (stops : Text.Stops Char.isAlphanum s)
    (ending : (dropPrefix? ['>'] s).or (dropPrefix? " href=\"".toList s) = some r) :
    readOpening? (['<'] ++ (name ++ s)) = some (.opens name, r) := by
  have run : run? Char.isAlphanum (name ++ s) = some (name, s) :=
    run?_eq_some_iff.mpr ⟨rfl, nonempty, all, stops⟩
  have bracket : dropPrefix? ['<'] (['<'] ++ (name ++ s)) = some (name ++ s) :=
    dropPrefix?_eq_some.mpr rfl
  simp only [readOpening?, bracket, run, ending, Option.bind_eq_bind, Option.bind_some,
    Option.pure_def]

theorem tagsOf_openTag {name : String} (member : name ∈ elementNames) (s : Text) :
    tagsOf (openTag name ++ s) = .opens name.toList :: tagsOf s := by
  obtain ⟨nonempty, all⟩ := elementNames_alphanum name member
  have split : openTag name ++ s = ['<'] ++ (name.toList ++ ('>' :: s)) := by simp [openTag]
  have closing := readClosing?_open nonempty all ('>' :: s)
  have opening : readOpening? (['<'] ++ (name.toList ++ ('>' :: s))) =
      some (.opens name.toList, s) :=
    readOpening?_of_name nonempty all (Text.stops_cons.mpr (by decide)) rfl
  rw [split]
  exact tagPattern.finds_of_read? (by simp only [tagPattern, closing, opening, Option.none_or])

theorem tagsOf_linkTag (s : Text) :
    tagsOf ("<a href=\"".toList ++ s) = .opens ['a'] :: tagsOf s :=
  tagPattern.finds_of_read? rfl

theorem tagsOf_linkEnd (s : Text) : tagsOf ("</a>".toList ++ s) = .closes ['a'] :: tagsOf s :=
  tagPattern.finds_of_read? rfl

theorem tagsOf_ruleTag (s : Text) : tagsOf (ruleTag ++ s) = tagsOf s := by
  have unread : tagPattern.read? (ruleTag ++ s) = none := rfl
  have head : ruleTag ++ s = '<' :: ("hr />".toList ++ s) := rfl
  rw [head] at unread ⊢
  exact (tagPattern.finds_cons_of_none unread).trans (tagsOf_append_of_not_mem (by decide) s)

theorem tagsOf_append_of_mem {t : Text} (member : t ∈ ownTags) (s : Text) :
    tagsOf (t ++ s) = tagsOf t ++ tagsOf s := by
  have alone (head : List Tag) (reads : ∀ s, tagsOf (t ++ s) = head ++ tagsOf s) :
      tagsOf (t ++ s) = tagsOf t ++ tagsOf s := by
    have self := reads []
    rw [List.append_nil, tagsOf_nil, List.append_nil] at self
    rw [reads s, self]
  simp only [ownTags, List.mem_append, List.mem_map, List.mem_cons, List.not_mem_nil,
    or_false] at member
  rcases member with (⟨name, inside, rfl⟩ | ⟨name, inside, rfl⟩) | rfl | rfl | rfl | rfl
  · exact alone [.opens name.toList] (tagsOf_openTag inside)
  · exact alone [.closes name.toList] (tagsOf_closeTag inside)
  · exact alone [] tagsOf_ruleTag
  · exact alone [.opens ['a']] tagsOf_linkTag
  · exact alone [] (tagsOf_append_of_not_mem (by decide))
  · exact alone [.closes ['a']] tagsOf_linkEnd

/-- Behind marked text the reading starts afresh. -/
theorem tagsOf_append {s : Text} (h : Marked ownTags s) (t : Text) :
    tagsOf (s ++ t) = tagsOf s ++ tagsOf t := by
  induction h with
  | nil => rw [tagsOf_nil, List.nil_append, List.nil_append]
  | @char c s less _ _ _ ih =>
    have skip (t : Text) : tagsOf (c :: t) = tagsOf t :=
      tagPattern.finds_cons_of_none (tagPattern_starts c t less)
    rw [List.cons_append, skip, skip, ih]
  | @entity e s member _ ih =>
    obtain ⟨name, rfl, _, noLess, _, _⟩ := entity_shape member
    have silent : '<' ∉ '&' :: name := by simpa using noLess
    rw [List.append_assoc, tagsOf_append_of_not_mem silent, tagsOf_append_of_not_mem silent, ih]
  | @tag tag s member _ ih =>
    rw [List.append_assoc, tagsOf_append_of_mem member, tagsOf_append_of_mem member, ih,
      List.append_assoc]

theorem tagsOf_flatMap {α : Type} {f : α → Text} {xs : List α}
    (all : ∀ x ∈ xs, Marked ownTags (f x)) :
    tagsOf (xs.flatMap f) = xs.flatMap fun x => tagsOf (f x) := by
  induction xs with
  | nil => exact tagsOf_nil
  | cons x xs ih =>
    rw [List.flatMap_cons, List.flatMap_cons, tagsOf_append (all x (by simp)),
      ih fun y member => all y (List.mem_cons_of_mem x member)]

theorem tagsOf_escaped {s : Text} (h : Marked [] s) : tagsOf s = [] :=
  tagsOf_of_not_mem h.escaped.1

theorem tagsOf_element {name : String} (member : name ∈ elementNames) {content : Text}
    (h : Marked ownTags content) :
    tagsOf (element name.toList content) = enclose name.toList (tagsOf content) := by
  have split : element name.toList content =
      openTag name ++ (content ++ (closeTag name ++ [])) := by
    simp [element, openTag, closeTag]
  rw [split, tagsOf_openTag member, tagsOf_append h, tagsOf_closeTag member, tagsOf_nil, enclose]

/-- Leaving out white space between tags leaves the sequence of tags as it is. -/
theorem tagsOf_closeGaps {s : Text} (h : Marked ownTags s) :
    tagsOf (Converter.closeGaps s) = tagsOf s := by
  generalize size : s.length = n
  induction n using Nat.strongRecOn generalizing s with
  | _ n ih =>
    subst size
    cases h with
    | nil => simp [Converter.closeGaps, Pattern.replace_nil]
    | @char c s less greater _ h =>
      have same := closeGaps_append (s := [c]) (by simpa using Ne.symm greater) s
      have skip (t : Text) : tagsOf (c :: t) = tagsOf t :=
        tagPattern.finds_cons_of_none (tagPattern_starts c t less)
      rw [List.singleton_append] at same
      rw [same, List.singleton_append, skip, skip, ih s.length (by simp) h rfl]
    | @entity e s member h =>
      obtain ⟨name, rfl, _, noLess, noGreater, _⟩ := entity_shape member
      have shorter : s.length < ('&' :: name ++ s).length := by
        simp only [List.length_append, List.length_cons]
        omega
      have silent : '<' ∉ '&' :: name := by simpa using noLess
      rw [closeGaps_append (by simpa using noGreater) s, tagsOf_append_of_not_mem silent,
        tagsOf_append_of_not_mem silent, ih s.length shorter h rfl]
    | @tag t s member h =>
      obtain ⟨solid, front⟩ := closing_ownTags t member
      have nonempty : t ≠ [] := by
        rintro rfl
        cases solid
      obtain ⟨w, rest, blank, rfl, same⟩ := closeGaps_atom nonempty front s
      have positive := List.length_pos_iff.mpr nonempty
      have shorter : rest.length < (t ++ (w ++ rest)).length := by
        simp only [List.length_append]
        omega
      have left := ih rest.length shorter (marked_of_blank_append closing_ownTags blank h) rfl
      have silent : '<' ∉ w := fun inside => absurd (blank '<' inside) (by decide)
      rw [same, tagsOf_append_of_mem member, tagsOf_append_of_mem member, left,
        tagsOf_append_of_not_mem silent]

end Folio.Markup
