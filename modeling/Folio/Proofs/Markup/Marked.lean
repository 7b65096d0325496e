import Folio.Markup.Converter
import Folio.Proofs.Text.Cut
import Folio.Proofs.Text.Scan

/-! Text in which the characters of markup occur only as parts of given tags and of entities, and
the ways to cut such text apart without cutting a tag or an entity. -/
namespace Folio.Markup

open Text (Pattern Piece Blank isBlank)

def entities : List Text := ["&amp;".toList, "&lt;".toList, "&gt;".toList]

/-- Angle brackets belong to the tags and ampersands to the entities. -/
inductive Marked (tags : List Text) : Text → Prop
  | nil : Marked tags []
  | char {c : Char} {s : Text} : c ≠ '<' → c ≠ '>' → c ≠ '&' → Marked tags s →
      Marked tags (c :: s)
  | entity {e s : Text} : e ∈ entities → Marked tags s → Marked tags (e ++ s)
  | tag {t s : Text} : t ∈ tags → Marked tags s → Marked tags (t ++ s)

/-- A character that no tag and no entity holds. -/
def Foreign (tags : List Text) (x : Char) : Prop := ∀ atom ∈ tags ++ entities, x ∉ atom

instance (tags : List Text) (x : Char) : Decidable (Foreign tags x) :=
  inferInstanceAs (Decidable (∀ atom ∈ tags ++ entities, x ∉ atom))

theorem foreign_of_isBlank {c : Char} (blank : isBlank c = true) : Foreign [] c := by
  intro atom member inside
  have solid : (entities.all fun atom => atom.all fun d => !isBlank d) = true := by
    decide +kernel
  have other := List.all_eq_true.mp (List.all_eq_true.mp solid atom member) c inside
  simp [blank] at other

theorem append_eq_of_not_mem {atom s a b : Text} {x : Char} (apart : x ∉ atom)
    (same : atom ++ s = a ++ x :: b) : ∃ rest, a = atom ++ rest ∧ s = rest ++ x :: b := by
  rcases List.append_eq_append_iff.mp same with ⟨rest, out, split⟩ | ⟨rest, out, split⟩
  · exact ⟨rest, out, split⟩
  · cases rest with
    | nil => exact ⟨[], by simpa using out.symm, by simpa using split.symm⟩
    | cons y rest =>
      cases split
      exact absurd (by simp [out]) apart

namespace Marked

variable {tags : List Text}

theorem mono {more : List Text} (sub : ∀ t ∈ tags, t ∈ more) {s : Text} (h : Marked tags s) :
    Marked more s := by
  induction h with
  | nil => exact .nil
  | char h₁ h₂ h₃ _ ih => exact .char h₁ h₂ h₃ ih
  | entity member _ ih => exact .entity member ih
  | tag member _ ih => exact .tag (sub _ member) ih

theorem append {s t : Text} (hs : Marked tags s) (ht : Marked tags t) : Marked tags (s ++ t) := by
  induction hs with
  | nil => exact ht
  | char h₁ h₂ h₃ _ ih => exact .char h₁ h₂ h₃ ih
  | entity member _ ih =>
    rw [List.append_assoc]
    exact .entity member ih
  | tag member _ ih =>
    rw [List.append_assoc]
    exact .tag member ih

theorem single {t : Text} (member : t ∈ tags) : Marked tags t := by
  have alone := Marked.tag member .nil
  rwa [List.append_nil] at alone

theorem ofEntity {e : Text} (member : e ∈ entities) : Marked tags e := by
  have alone : Marked tags (e ++ []) := .entity member .nil
  rwa [List.append_nil] at alone

theorem flatMap {α : Type} {f : α → Text} {xs : List α} (all : ∀ x ∈ xs, Marked tags (f x)) :
    Marked tags (xs.flatMap f) := by
  induction xs with
  | nil => exact .nil
  | cons x xs ih =>
    rw [List.flatMap_cons]
    exact (all x (by simp)).append (ih fun y hy => all y (List.mem_cons_of_mem x hy))

/-- A foreign character cuts no tag and no entity. -/
theorem split {x : Char} (foreign : Foreign tags x) {a b : Text}
    (h : Marked tags (a ++ x :: b)) : Marked tags a ∧ Marked tags b := by
  generalize same : a ++ x :: b = s at h
  induction h generalizing a with
  | nil => simp at same
  | @char c s h₁ h₂ h₃ h ih =>
    cases a with
    | nil =>
      cases same
      exact ⟨.nil, h⟩
    | cons d a =>
      cases same
      have parts := ih rfl
      exact ⟨.char h₁ h₂ h₃ parts.1, parts.2⟩
  | @entity e s member _ ih =>
    have apart := foreign e (List.mem_append_right tags member)
    obtain ⟨rest, rfl, rfl⟩ := append_eq_of_not_mem apart same.symm
    have parts := ih rfl
    exact ⟨.entity member parts.1, parts.2⟩
  | @tag t s member _ ih =>
    have apart := foreign t (List.mem_append_left entities member)
    obtain ⟨rest, rfl, rfl⟩ := append_eq_of_not_mem apart same.symm
    have parts := ih rfl
    exact ⟨.tag member parts.1, parts.2⟩

theorem of_cons {x : Char} (foreign : Foreign tags x) {s : Text} (h : Marked tags (x :: s)) :
    Marked tags s :=
  (split (a := []) foreign h).2

theorem drop {w s : Text} (foreign : ∀ c ∈ w, Foreign tags c) (h : Marked tags (w ++ s)) :
    Marked tags s := by
  induction w with
  | nil => exact h
  | cons c w ih =>
    exact ih (fun d hd => foreign d (List.mem_cons_of_mem c hd)) (of_cons (foreign c (by simp)) h)

theorem drop_blank {w s : Text} (blank : Blank w) (h : Marked [] (w ++ s)) : Marked [] s :=
  drop (fun c hc => foreign_of_isBlank (blank c hc)) h

theorem take_blank {w s : Text} (blank : Blank w) (h : Marked [] (s ++ w)) : Marked [] s := by
  cases w with
  | nil => rwa [List.append_nil] at h
  | cons c w => exact (split (foreign_of_isBlank (blank c (by simp))) h).1

theorem strip {s : Text} (h : Marked [] s) : Marked [] s.strip := by
  obtain ⟨front, blankFront, left⟩ := Text.exists_blank_append_stripLeft s
  obtain ⟨back, blankBack, right⟩ := Text.exists_append_blank_stripRight (Text.stripLeft s)
  rw [left] at h
  have trimmed := drop_blank blankFront h
  rw [right] at trimmed
  exact take_blank blankBack trimmed

/-- The pieces of marked text, cut by a pattern whose finds begin with a foreign character. -/
theorem cut {α : Type} {p : Pattern α} {x : Char} {Q : α → Prop} (proper : [] ∉ tags)
    (foreign : Foreign tags x) (starts : ∀ c s, c ≠ x → p.read? (c :: s) = none)
    (reads : ∀ s a r, p.read? s = some (a, r) → Marked tags s → Q a ∧ Marked tags r)
    {s : Text} (h : Marked tags s) : ∀ piece ∈ p.cut s, piece.Holds (Marked tags) Q := by
  -- nothing is read inside an atom, so an atom joins the plain text behind it
  have atom {e : Text} (self : Marked tags e) (member : e ∈ tags ++ entities) (t : Text)
      (ih : ∀ piece ∈ p.cut t, piece.Holds (Marked tags) Q) :
      ∀ piece ∈ p.cut (e ++ t), piece.Holds (Marked tags) Q := by
    rw [p.cut_append (p.unread_of_not_mem starts (foreign e member)) t]
    exact Piece.holds_pushText self (fun _ => self.append) ih
  generalize size : s.length = n
  induction n using Nat.strongRecOn generalizing s with
  | _ n ih =>
    subst size
    cases h with
    | nil => simp
    | @char c s h₁ h₂ h₃ h =>
      cases found : p.read? (c :: s) with
      | none =>
        rw [p.cut_cons_of_none found, ← Piece.pushText_nil (Piece.pushChar c (p.cut s))]
        have single : Marked tags [c] := .char h₁ h₂ h₃ .nil
        exact Piece.holds_pushText (s := [c]) single (fun _ => single.append)
          (ih s.length (by simp) h rfl)
      | some out =>
        obtain ⟨a, r⟩ := out
        have next := reads (c :: s) a r found (.char h₁ h₂ h₃ h)
        rw [p.cut_of_read? found]
        intro piece member
        rcases List.mem_cons.mp member with rfl | member
        · exact next.1
        · exact ih r.length (p.shorter found) next.2 rfl piece member
    | @entity e s member h =>
      have nonempty : ∀ e ∈ entities, 0 < e.length := by decide
      exact atom (ofEntity member) (List.mem_append_right tags member) s
        (ih s.length (by simp [nonempty e member]) h rfl)
    | @tag t s member h =>
      have nonempty : t ≠ [] := fun empty => proper (empty ▸ member)
      exact atom (single member) (List.mem_append_left entities member) s
        (ih s.length (by simp [List.length_pos_iff.mpr nonempty]) h rfl)

theorem replace {α : Type} {p : Pattern α} {x : Char} {more : List Text} {write : α → Text}
    (proper : [] ∉ tags) (foreign : Foreign tags x) (sub : ∀ t ∈ tags, t ∈ more)
    (starts : ∀ c s, c ≠ x → p.read? (c :: s) = none)
    (reads : ∀ s a r, p.read? s = some (a, r) → Marked tags s →
      Marked more (write a) ∧ Marked tags r)
    {s : Text} (h : Marked tags s) : Marked more (p.replace write s) := by
  have pieces := cut (Q := fun a => Marked more (write a)) proper foreign starts reads h
  apply flatMap
  intro piece member
  cases piece with
  | plain t => exact mono sub (pieces (.plain t) member)
  | found a => exact pieces (.found a) member

end Marked

end Folio.Markup
