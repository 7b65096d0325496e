import Folio.Proofs.Markup.TagReading
import Mathlib.Data.List.Basic

/-! The tags of emphasis and of links in a text without code spans. Emphasis is always nested, since
no mark stands inside a pair of its tags. A link may hold half of a pair. -/
namespace Folio.Markup

open Text (Pattern Piece dropPrefix?_eq_some run?_eq_some_iff)

def emphasized (s : Text) : Text :=
  emphasize 1 "<i>" "</i>" <| emphasize 2 "<b>" "</b>" <| emphasize 3 "<b><i>" "</i></b>" s

def linksIn (s : Text) : List Link := links.finds (emphasized s)

/-- Tags of emphasis that are nested up to every star. -/
structure EvenAtStars (s : Text) : Prop where
  marked : Marked emphasisTags s
  nested : Nested (tagsOf s)
  atStars : ∀ before behind, s = before ++ '*' :: behind → Nested (tagsOf before)

theorem star_foreign : Foreign emphasisTags '*' := by decide

theorem tagsOf_append_emphasis {s : Text} (h : Marked emphasisTags s) (t : Text) :
    tagsOf (s ++ t) = tagsOf s ++ tagsOf t :=
  tagsOf_append (h.mono emphasisTags_sub) t

theorem tagsOf_star (s : Text) : tagsOf ('*' :: s) = tagsOf s :=
  tagPattern.finds_cons_of_none (tagPattern_starts '*' s (by decide))

namespace EvenAtStars

variable {s before behind : Text}

theorem of_escaped (h : Marked [] s) : EvenAtStars s := by
  refine ⟨h.mono (by simp), ?_, ?_⟩
  · rw [tagsOf_escaped h]
    exact .nil
  · rintro before behind rfl
    have front := (h.split (x := '*') (by decide)).1
    rw [tagsOf_escaped front]
    exact .nil

theorem split (h : EvenAtStars (before ++ '*' :: behind)) :
    EvenAtStars before ∧ EvenAtStars behind := by
  have marked := h.marked.split star_foreign
  have front := h.atStars before behind rfl
  have reads (more : Text) : tagsOf (before ++ '*' :: more) = tagsOf before ++ tagsOf more := by
    rw [tagsOf_append_emphasis marked.1, tagsOf_star]
  constructor
  · refine ⟨marked.1, front, ?_⟩
    rintro inner rest rfl
    exact h.atStars inner (rest ++ '*' :: behind) (by simp)
  · refine ⟨marked.2, front.of_append (reads behind ▸ h.nested), ?_⟩
    rintro inner rest rfl
    have upTo := h.atStars (before ++ '*' :: inner) rest (by simp)
    exact front.of_append (reads inner ▸ upTo)

theorem of_stars {n : Nat} (h : EvenAtStars (stars n ++ s)) : EvenAtStars s := by
  induction n with
  | zero => exact h
  | succ n ih =>
    have first : EvenAtStars ([] ++ '*' :: (stars n ++ s)) := h
    exact ih first.split.2

theorem star (h : EvenAtStars s) : EvenAtStars ('*' :: s) := by
  refine ⟨.char (by decide) (by decide) (by decide) h.marked, tagsOf_star s ▸ h.nested, ?_⟩
  intro before behind same
  cases before with
  | nil =>
    rw [tagsOf_nil]
    exact .nil
  | cons c before =>
    obtain ⟨rfl, rfl⟩ := List.cons.inj same
    rw [tagsOf_star]
    exact h.atStars before behind rfl

theorem plain_append {w : Text} (unstarred : '*' ∉ w) (marked : Marked emphasisTags w)
    (nested : Nested (tagsOf w)) (h : EvenAtStars s) : EvenAtStars (w ++ s) := by
  refine ⟨marked.append h.marked, ?_, ?_⟩
  · rw [tagsOf_append_emphasis marked]
    exact nested.append h.nested
  · intro before behind same
    obtain ⟨inner, rfl, rfl⟩ := append_eq_of_not_mem unstarred same
    rw [tagsOf_append_emphasis marked]
    exact nested.append (h.atStars inner behind rfl)

end EvenAtStars

theorem emphasis_unstarred {n : Nat} {s inner r : Text}
    (h : (emphasis n).read? s = some (inner, r)) : '*' ∉ inner := by
  simp only [emphasis, Option.bind_eq_bind, Option.bind_eq_some_iff, Option.pure_def, Prod.exists,
    run?_eq_some_iff] at h
  obtain ⟨_, _, i, _, ⟨_, _, all, _⟩, _, _, out⟩ := h
  cases out
  exact Text.forall_bne_iff.mp all

/-- Tags that may be put around emphasised text. -/
structure Around (opening closing : String) : Prop where
  opens : Marked emphasisTags opening.toList
  closes : Marked emphasisTags closing.toList
  unstarred : '*' ∉ opening.toList ++ closing.toList
  nested : ∀ tags, Nested tags → Nested (tagsOf opening.toList ++ (tags ++ tagsOf closing.toList))

namespace Around

variable {opening closing : String}

theorem even_write (h : Around opening closing) {inner s : Text} (unstarred : '*' ∉ inner)
    (even : EvenAtStars inner) (rest : EvenAtStars s) :
    EvenAtStars (opening.toList ++ inner ++ closing.toList ++ s) := by
  have apart : '*' ∉ opening.toList ++ inner ++ closing.toList := by
    have own := h.unstarred
    simp only [List.mem_append, not_or] at own ⊢
    exact ⟨⟨own.1, unstarred⟩, own.2⟩
  have marked := (h.opens.append even.marked).append h.closes
  refine .plain_append apart marked ?_ rest
  rw [List.append_assoc, tagsOf_append_emphasis h.opens, tagsOf_append_emphasis even.marked]
  exact h.nested _ even.nested

theorem even_emphasize (h : Around opening closing) {n : Nat} {s : Text} (even : EvenAtStars s) :
    EvenAtStars (emphasize (n + 1) opening closing s) := by
  have quiet {w : Text} (unstarred : '*' ∉ w) :
      ∀ c ∈ w, ∀ t, (emphasis (n + 1)).read? (c :: t) = none :=
    (emphasis (n + 1)).unread_of_not_mem (emphasis_starts n) unstarred
  generalize size : s.length = k
  induction k using Nat.strongRecOn generalizing s with
  | _ k ih =>
    subst size
    by_cases starred : '*' ∈ s
    · -- the text up to the first star stays, and a mark is read there or the star stays too
      obtain ⟨w, behind, rfl, unstarred⟩ := List.eq_append_cons_of_mem starred
      have parts := even.split
      have whole : emphasize (n + 1) opening closing (w ++ '*' :: behind) =
          w ++ emphasize (n + 1) opening closing ('*' :: behind) :=
        (emphasis (n + 1)).replace_append _ (quiet unstarred) _
      rw [whole]
      refine .plain_append unstarred parts.1.marked parts.1.nested ?_
      cases found : (emphasis (n + 1)).read? ('*' :: behind) with
      | none =>
        have kept : emphasize (n + 1) opening closing ('*' :: behind) =
            '*' :: emphasize (n + 1) opening closing behind :=
          (emphasis (n + 1)).replace_cons_of_none _ found
        rw [kept]
        exact (ih behind.length (by simp; omega) parts.2 rfl).star
      | some out =>
        obtain ⟨inner, r⟩ := out
        have written : emphasize (n + 1) opening closing ('*' :: behind) =
            opening.toList ++ inner ++ closing.toList ++ emphasize (n + 1) opening closing r :=
          (emphasis (n + 1)).replace_of_read? _ found
        have shorter := (emphasis (n + 1)).shorter found
        have marks : EvenAtStars (stars (n + 1) ++ (inner ++ (stars (n + 1) ++ r))) := by
          rw [← emphasis_read found]
          exact parts.2.star
        have starred : EvenAtStars (inner ++ '*' :: (stars n ++ r)) := EvenAtStars.of_stars marks
        have inside := starred.split
        have rest := ih r.length (by simp at shorter ⊢; omega) inside.2.of_stars rfl
        rw [written]
        exact h.even_write (emphasis_unstarred found) inside.1 rest
    · have same : emphasize (n + 1) opening closing s = s :=
        (emphasis (n + 1)).replace_of_unread _ (quiet starred)
      rw [same]
      exact even

end Around

theorem around_italic : Around "<i>" "</i>" where
  opens := .single (by decide)
  closes := .single (by decide)
  unstarred := by decide
  nested tags h := by
    have opens : tagsOf "<i>".toList = [.opens ['i']] := by decide +kernel
    have closes : tagsOf "</i>".toList = [.closes ['i']] := by decide +kernel
    rw [opens, closes]
    exact h.enclose ['i']

theorem around_bold : Around "<b>" "</b>" where
  opens := .single (by decide)
  closes := .single (by decide)
  unstarred := by decide
  nested tags h := by
    have opens : tagsOf "<b>".toList = [.opens ['b']] := by decide +kernel
    have closes : tagsOf "</b>".toList = [.closes ['b']] := by decide +kernel
    rw [opens, closes]
    exact h.enclose ['b']

theorem around_boldItalic : Around "<b><i>" "</i></b>" where
  opens := (Marked.single (t := "<b>".toList) (by decide)).append
    (.single (t := "<i>".toList) (by decide))
  closes := (Marked.single (t := "</i>".toList) (by decide)).append
    (.single (t := "</b>".toList) (by decide))
  unstarred := by decide
  nested tags h := by
    have opens : tagsOf "<b><i>".toList = [.opens ['b'], .opens ['i']] := by decide +kernel
    have closes : tagsOf "</i></b>".toList = [.closes ['i'], .closes ['b']] := by decide +kernel
    have both := (h.enclose ['i']).enclose ['b']
    rw [opens, closes]
    simpa [enclose] using both

theorem even_emphasized {s : Text} (h : Marked [] s) : EvenAtStars (emphasized s) :=
  around_italic.even_emphasize (around_bold.even_emphasize
    (around_boldItalic.even_emphasize (.of_escaped h)))

/-! Links -/

def isEmphasis (name : Text) : Bool := [['b'], ['i']].contains name

theorem isEmphasis_of_mem_tagsOf {s : Text} (h : Marked emphasisTags s) :
    ∀ tag ∈ tagsOf s, isEmphasis tag.name = true := by
  have own : ∀ t ∈ emphasisTags, ∀ tag ∈ tagsOf t, isEmphasis tag.name = true := by
    decide +kernel
  induction h with
  | nil =>
    rw [tagsOf_nil]
    simp
  | @char c s less _ _ _ ih =>
    rwa [show tagsOf (c :: s) = tagsOf s from
      tagPattern.finds_cons_of_none (tagPattern_starts c s less)]
  | @entity e s member _ ih =>
    obtain ⟨name, rfl, _, noLess, _, _⟩ := entity_shape member
    rwa [tagsOf_append_of_not_mem (by simpa using noLess)]
  | @tag t s member _ ih =>
    rw [tagsOf_append_of_mem (emphasisTags_sub t member)]
    exact List.forall_mem_append.mpr ⟨own t member, ih⟩

def Link.source (link : Link) : Text := '[' :: (link.label ++ ']' :: '(' :: (link.url ++ [')']))

/-- The tags of a piece as they stand in the emphasised text. -/
def sourceTags : Piece Link → List Tag
  | .plain s => tagsOf s
  | .found link => tagsOf link.label ++ tagsOf link.url

def writtenTags : Piece Link → List Tag
  | .plain s => tagsOf s
  | .found link => enclose ['a'] (tagsOf link.url ++ tagsOf link.label)

theorem tagsOf_linkSource {link : Link} (label : Marked emphasisTags link.label)
    (url : Marked emphasisTags link.url) :
    Marked emphasisTags link.source ∧
      tagsOf link.source = tagsOf link.label ++ tagsOf link.url := by
  have bracket {c : Char} (plain : c ≠ '<' ∧ c ≠ '>' ∧ c ≠ '&') {s : Text}
      (h : Marked emphasisTags s) :
      Marked emphasisTags (c :: s) ∧ tagsOf (c :: s) = tagsOf s :=
    ⟨.char plain.1 plain.2.1 plain.2.2 h,
      tagPattern.finds_cons_of_none (tagPattern_starts c s plain.1)⟩
  have last := bracket (c := ')') (by decide) .nil
  have address := bracket (c := '(') (by decide) (url.append last.1)
  have middle := bracket (c := ']') (by decide) address.1
  have whole := bracket (c := '[') (by decide) (label.append middle.1)
  refine ⟨whole.1, ?_⟩
  rw [Link.source, whole.2, tagsOf_append_emphasis label, middle.2, address.2,
    tagsOf_append_emphasis url, last.2, tagsOf_nil, List.append_nil]

theorem tagsOf_linkHtml {link : Link} (label : Marked emphasisTags link.label)
    (url : Marked emphasisTags link.url) :
    tagsOf link.html = enclose ['a'] (tagsOf link.url ++ tagsOf link.label) := by
  have split : link.html = "<a href=\"".toList ++ (link.url ++ ("\">".toList ++
      (link.label ++ ("</a>".toList ++ [])))) := by
    unfold Link.html
    simp only [List.append_assoc, List.append_nil]
  rw [split, tagsOf_linkTag, tagsOf_append_emphasis url,
    tagsOf_append_of_not_mem (s := "\">".toList) (by decide), tagsOf_append_emphasis label,
    tagsOf_linkEnd, tagsOf_nil, enclose, List.append_assoc]

section Links

variable {s : Text}

theorem marked_linkPieces (h : Marked [] s) : ∀ piece ∈ links.cut (emphasized s),
    piece.Holds (Marked emphasisTags)
      (fun link => Marked emphasisTags link.label ∧ Marked emphasisTags link.url) := by
  refine (even_emphasized h).marked.cut (x := '[') (by decide) (by decide) links_starts ?_
  intro s link r found marked
  obtain ⟨label, url, rest⟩ := marked_of_links_read found marked
  exact ⟨⟨label, url⟩, rest⟩

theorem marked_of_mem_linksIn (h : Marked [] s) {link : Link} (member : link ∈ linksIn s) :
    Marked emphasisTags link.label ∧ Marked emphasisTags link.url := by
  obtain ⟨piece, inside, found⟩ := List.mem_filterMap.mp member
  cases piece with
  | plain t => cases found
  | found other =>
    cases found
    exact marked_linkPieces h _ inside

theorem sourceTags_cut (h : Marked [] s) :
    (links.cut (emphasized s)).flatMap sourceTags = tagsOf (emphasized s) := by
  have pieces := marked_linkPieces h
  have spelled : (links.cut (emphasized s)).flatMap (Piece.spelled Link.source) = emphasized s := by
    apply links.flatMap_spelled_cut
    intro s link r found
    rw [links_read found, Link.source]
    simp
  conv_rhs => rw [← spelled]
  rw [tagsOf_flatMap]
  · apply List.flatMap_congr
    intro piece member
    cases piece with
    | plain t => rfl
    | found link =>
      have parts := pieces (.found link) member
      exact (tagsOf_linkSource parts.1 parts.2).2.symm
  · intro piece member
    cases piece with
    | plain t => exact (pieces (.plain t) member).mono emphasisTags_sub
    | found link =>
      have parts := pieces (.found link) member
      exact (tagsOf_linkSource parts.1 parts.2).1.mono emphasisTags_sub

theorem tagsOf_renderPlain (h : Marked [] s) :
    tagsOf (renderPlain s) = (links.cut (emphasized s)).flatMap writtenTags := by
  have pieces := marked_linkPieces h
  have written : renderPlain s = links.replace Link.html (emphasized s) := rfl
  rw [written, Pattern.replace, tagsOf_flatMap]
  · apply List.flatMap_congr
    intro piece member
    cases piece with
    | plain t => rfl
    | found link =>
      have parts := pieces (.found link) member
      exact tagsOf_linkHtml parts.1 parts.2
  · intro piece member
    cases piece with
    | plain t => exact (pieces (.plain t) member).mono emphasisTags_sub
    | found link =>
      have parts := pieces (.found link) member
      exact marked_link parts.1 parts.2

/-- Writing the address of a link before its label changes nothing for the tags around it, if those
inside are nested in the new order. -/
theorem openAfter_writtenTags {pieces : List (Piece Link)}
    (nested : ∀ link, .found link ∈ pieces → Nested (tagsOf link.url ++ tagsOf link.label))
    {stack rest : List Text} (h : openAfter stack (pieces.flatMap sourceTags) = some rest) :
    openAfter stack (pieces.flatMap writtenTags) = some rest := by
  induction pieces generalizing stack with
  | nil => exact h
  | cons piece pieces ih =>
    rw [List.flatMap_cons] at h ⊢
    obtain ⟨middle, reads, tail⟩ := openAfter_append_some.mp h
    have others := ih (fun link member => nested link (List.mem_cons_of_mem _ member)) tail
    cases piece with
    | plain t => exact openAfter_append_some.mpr ⟨middle, reads, others⟩
    | found link =>
      -- label and address in their old order had to leave the stack as it was
      have inside := nested link (by simp)
      rw [inside.eq_of_swap reads] at others
      exact openAfter_append_some.mpr
        ⟨stack, (inside.enclose ['a']).openAfter_eq stack, others⟩

theorem nested_renderPlain (h : Marked [] s)
    (inside : ∀ link ∈ linksIn s, Nested (tagsOf (link.url ++ link.label))) :
    Nested (tagsOf (renderPlain s)) := by
  have source := (even_emphasized h).nested
  rw [← sourceTags_cut h] at source
  rw [tagsOf_renderPlain h]
  refine openAfter_writtenTags ?_ source
  intro link member
  have found : link ∈ linksIn s := List.mem_filterMap.mpr ⟨.found link, member, rfl⟩
  rw [← tagsOf_append_emphasis (marked_of_mem_linksIn h found).2]
  exact inside link found

theorem isEmphasis_of_mem_linksIn (h : Marked [] s) {link : Link} (member : link ∈ linksIn s) :
    ∀ tag ∈ tagsOf (link.url ++ link.label), isEmphasis tag.name = true := by
  have marked := marked_of_mem_linksIn h member
  exact isEmphasis_of_mem_tagsOf (marked.2.append marked.1)

theorem link_infix_renderPlain (h : Marked [] s) {link : Link} (member : link ∈ linksIn s) :
    enclose ['a'] (tagsOf (link.url ++ link.label)) <:+: tagsOf (renderPlain s) := by
  obtain ⟨piece, inside, found⟩ := List.mem_filterMap.mp member
  cases piece with
  | plain t => cases found
  | found other =>
    cases found
    rw [tagsOf_append_emphasis (marked_of_mem_linksIn h member).2, tagsOf_renderPlain h,
      List.flatMap_def]
    exact List.infix_of_mem_flatten (List.mem_map_of_mem (f := writtenTags) inside)

end Links

end Folio.Markup
