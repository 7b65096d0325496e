import Folio.Proofs.Markup.Emphasis

/-! A link by itself. Emphasis is looked for before links are, also inside an address, so an address
comes out as it was written exactly if its stars leave no text between them. -/
namespace Folio.Markup

open Text (Pattern Stops run?_eq_some_iff dropPrefix?_eq_some forall_bne_iff)

theorem emphasis_read_iff {n : Nat} {s inner r : Text} :
    (emphasis (n + 1)).read? s = some (inner, r) ↔
      s = stars (n + 1) ++ (inner ++ (stars (n + 1) ++ r)) ∧ inner ≠ [] ∧ '*' ∉ inner := by
  simp only [emphasis, Option.bind_eq_bind, Option.bind_eq_some_iff, Option.pure_def, Prod.exists,
    dropPrefix?_eq_some, run?_eq_some_iff, forall_bne_iff]
  constructor
  · rintro ⟨_, rfl, i, _, ⟨rfl, nonempty, unstarred, _⟩, _, rfl, out⟩
    cases out
    exact ⟨rfl, nonempty, unstarred⟩
  · rintro ⟨rfl, nonempty, unstarred⟩
    have stops : Stops (fun c => c != '*') (stars (n + 1) ++ r) :=
      Text.stops_cons.mpr (by decide)
    exact ⟨_, rfl, inner, _, ⟨rfl, nonempty, unstarred, stops⟩, r, rfl, rfl⟩

/-- Nothing stands between two stars that follow each other. -/
def StarsMeet (s : Text) : Prop :=
  ∀ before inner after, s = before ++ '*' :: (inner ++ '*' :: after) → '*' ∉ inner → inner = []

theorem finds_eq_nil_of_starsMeet {s : Text} (meet : StarsMeet s) (n : Nat) :
    (emphasis (n + 1)).finds s = [] := by
  apply (emphasis (n + 1)).finds_eq_nil_iff.mpr
  rintro before behind rfl
  by_contra read
  obtain ⟨⟨inner, r⟩, found⟩ := Option.ne_none_iff_exists'.mp read
  obtain ⟨rfl, nonempty, unstarred⟩ := emphasis_read_iff.mp found
  have opening : stars (n + 1) = stars n ++ ['*'] := List.replicate_succ'
  have split : stars (n + 1) ++ (inner ++ '*' :: (stars n ++ r)) =
      stars n ++ '*' :: (inner ++ '*' :: (stars n ++ r)) := by
    rw [opening, List.append_assoc]
    rfl
  apply nonempty
  apply meet (before ++ stars n) inner (stars n ++ r) _ unstarred
  rw [List.append_assoc, ← split]
  rfl

theorem starsMeet_iff {s : Text} : StarsMeet s ↔ (emphasis 1).finds s = [] := by
  constructor
  · intro meet
    exact finds_eq_nil_of_starsMeet meet 0
  · rintro none before inner after rfl unstarred
    by_contra nonempty
    have read : (emphasis 1).read? ('*' :: (inner ++ '*' :: after)) = some (inner, after) :=
      emphasis_read_iff.mpr ⟨rfl, nonempty, unstarred⟩
    rw [(emphasis 1).finds_eq_nil_iff.mp none before _ rfl] at read
    cases read

section Emphasize

variable {n : Nat} {opening closing : String}

theorem emphasize_read {s inner r : Text} (found : (emphasis n).read? s = some (inner, r)) :
    emphasize n opening closing s =
      opening.toList ++ inner ++ closing.toList ++ emphasize n opening closing r :=
  (emphasis n).replace_of_read? _ found

theorem emphasize_cons_of_none {c : Char} {s : Text} (unread : (emphasis n).read? (c :: s) = none) :
    emphasize n opening closing (c :: s) = c :: emphasize n opening closing s :=
  (emphasis n).replace_cons_of_none _ unread

theorem emphasize_nil : emphasize n opening closing [] = [] := (emphasis n).replace_nil _

theorem append_eq_cons_of_not_mem {x : Char} {s w front r : Text} (apart : x ∉ w)
    (same : s ++ w = front ++ x :: r) : ∃ rest, s = front ++ x :: rest ∧ r = rest ++ w := by
  rcases List.append_eq_append_iff.mp same with ⟨beyond, rfl, split⟩ | ⟨rest, rfl, split⟩
  · exact absurd (by simp [split]) apart
  · cases rest with
    | nil =>
      rw [List.nil_append] at split
      exact absurd (by simp [← split]) apart
    | cons y rest =>
      cases split
      exact ⟨rest, rfl, rfl⟩

/-- Text without stars in front of a text is not looked at. -/
theorem emphasize_append {w : Text} (unstarred : '*' ∉ w) (s : Text) :
    emphasize (n + 1) opening closing (w ++ s) = w ++ emphasize (n + 1) opening closing s :=
  (emphasis (n + 1)).replace_append _
    ((emphasis (n + 1)).unread_of_not_mem (emphasis_starts n) unstarred) s

theorem emphasize_of_not_mem {w : Text} (unstarred : '*' ∉ w) :
    emphasize (n + 1) opening closing w = w :=
  (emphasis (n + 1)).replace_of_unread _
    ((emphasis (n + 1)).unread_of_not_mem (emphasis_starts n) unstarred)

/-- What is read in front of text without stars ends before that text. -/
theorem emphasis_read_append {s w r inner : Text} (unstarred : '*' ∉ w)
    (found : (emphasis (n + 1)).read? (s ++ w) = some (inner, r)) :
    ∃ rest, r = rest ++ w ∧ (emphasis (n + 1)).read? s = some (inner, rest) := by
  obtain ⟨same, nonempty, starless⟩ := emphasis_read_iff.mp found
  have marks : stars (n + 1) = stars n ++ ['*'] := List.replicate_succ'
  have last : s ++ w = (stars (n + 1) ++ (inner ++ stars n)) ++ '*' :: r := by
    rw [same]
    conv_lhs => rw [marks]
    rw [marks]
    simp
  obtain ⟨rest, rfl, rfl⟩ := append_eq_cons_of_not_mem unstarred last
  refine ⟨rest, rfl, emphasis_read_iff.mpr ⟨?_, nonempty, starless⟩⟩
  rw [marks]
  simp

theorem emphasize_append_of_not_mem {w : Text} (unstarred : '*' ∉ w) (s : Text) :
    emphasize (n + 1) opening closing (s ++ w) = emphasize (n + 1) opening closing s ++ w := by
  induction s using (emphasis (n + 1)).searchInduction with
  | nil => rw [List.nil_append, emphasize_nil, emphasize_of_not_mem unstarred, List.nil_append]
  | unread c s unread ih =>
    have unread' : (emphasis (n + 1)).read? (c :: (s ++ w)) = none := by
      by_contra read
      obtain ⟨⟨inner, r⟩, found⟩ := Option.ne_none_iff_exists'.mp read
      obtain ⟨rest, _, inside⟩ := emphasis_read_append (s := c :: s) unstarred found
      rw [unread] at inside
      cases inside
    rw [List.cons_append, emphasize_cons_of_none unread', emphasize_cons_of_none unread, ih,
      List.cons_append]
  | read s inner r found ih =>
    obtain ⟨same, nonempty, starless⟩ := emphasis_read_iff.mp found
    have longer : (emphasis (n + 1)).read? (s ++ w) = some (inner, r ++ w) :=
      emphasis_read_iff.mpr ⟨by simp [same], nonempty, starless⟩
    rw [emphasize_read longer, emphasize_read found, ih]
    simp only [List.append_assoc]

theorem emphasize_ne_nil {s : Text} (nonempty : s ≠ []) (opens : opening.toList ≠ []) :
    emphasize n opening closing s ≠ [] := by
  cases s with
  | nil => exact absurd rfl nonempty
  | cons c s =>
    cases found : (emphasis n).read? (c :: s) with
    | none =>
      rw [emphasize_cons_of_none found]
      exact List.cons_ne_nil _ _
    | some out =>
      rw [emphasize_read found]
      simp [opens]

/-- A character of no tag is found in emphasised text only if it was there before. -/
theorem mem_of_mem_emphasize {x : Char} (foreign : x ∉ opening.toList ++ closing.toList) {s : Text}
    (member : x ∈ emphasize n opening closing s) : x ∈ s := by
  induction s using (emphasis n).searchInduction with
  | nil => rwa [emphasize_nil] at member
  | unread c s unread ih =>
    rw [emphasize_cons_of_none unread] at member
    rcases List.mem_cons.mp member with rfl | member
    · exact List.mem_cons_self
    · exact List.mem_cons_of_mem c (ih member)
  | read s inner r found ih =>
    rw [emphasize_read found] at member
    rw [emphasis_read found]
    simp only [List.mem_append, not_or] at member foreign ⊢
    rcases member with ((own | own) | own) | own
    · exact absurd own foreign.1
    · exact .inr (.inl own)
    · exact absurd own foreign.2
    · exact .inr (.inr (.inr (ih own)))

/-- Every find takes stars out of a text and none is put in. -/
theorem count_star_emphasize (foreign : '*' ∉ opening.toList ++ closing.toList) (s : Text) :
    (emphasize (n + 1) opening closing s).count '*' ≤ s.count '*' ∧
      ((emphasis (n + 1)).finds s ≠ [] →
        (emphasize (n + 1) opening closing s).count '*' < s.count '*') := by
  induction s using (emphasis (n + 1)).searchInduction with
  | nil =>
    rw [emphasize_nil, Pattern.finds_nil]
    exact ⟨Nat.le_refl _, fun found => absurd rfl found⟩
  | unread c s unread ih =>
    rw [emphasize_cons_of_none unread, (emphasis (n + 1)).finds_cons_of_none unread,
      List.count_cons, List.count_cons]
    refine ⟨Nat.add_le_add_right ih.1 _, fun more => ?_⟩
    exact Nat.add_lt_add_right (ih.2 more) _
  | read s inner r found ih =>
    have marks : (stars (n + 1)).count '*' = n + 1 := List.count_replicate_self
    have opens : opening.toList.count '*' = 0 :=
      List.count_eq_zero.mpr fun own => foreign (List.mem_append_left _ own)
    have closes : closing.toList.count '*' = 0 :=
      List.count_eq_zero.mpr fun own => foreign (List.mem_append_right _ own)
    have rest := ih.1
    have fewer : (emphasize (n + 1) opening closing s).count '*' < s.count '*' := by
      rw [emphasize_read found, emphasis_read found]
      simp only [List.count_append, marks, opens, closes]
      omega
    exact ⟨Nat.le_of_lt fewer, fun _ => fewer⟩

theorem finds_eq_nil_of_count_star (foreign : '*' ∉ opening.toList ++ closing.toList) {s : Text}
    (kept : s.count '*' ≤ (emphasize (n + 1) opening closing s).count '*') :
    (emphasis (n + 1)).finds s = [] := by
  by_contra found
  have fewer := (count_star_emphasize foreign s).2 found
  omega

end Emphasize

theorem emphasized_append {w : Text} (unstarred : '*' ∉ w) (s : Text) :
    emphasized (w ++ s) = w ++ emphasized s := by
  unfold emphasized
  rw [emphasize_append unstarred, emphasize_append unstarred, emphasize_append unstarred]

theorem emphasized_append_of_not_mem {w : Text} (unstarred : '*' ∉ w) (s : Text) :
    emphasized (s ++ w) = emphasized s ++ w := by
  unfold emphasized
  rw [emphasize_append_of_not_mem unstarred, emphasize_append_of_not_mem unstarred,
    emphasize_append_of_not_mem unstarred]

theorem emphasized_ne_nil {s : Text} (nonempty : s ≠ []) : emphasized s ≠ [] :=
  emphasize_ne_nil
    (emphasize_ne_nil (emphasize_ne_nil nonempty (by decide)) (by decide)) (by decide)

theorem mem_of_mem_emphasized {x : Char} (foreign : Foreign emphasisTags x) {s : Text}
    (member : x ∈ emphasized s) : x ∈ s := by
  have tag : ∀ t ∈ emphasisTags, x ∉ t := fun t own => foreign t (List.mem_append_left _ own)
  have bold := tag "<b>".toList (by decide)
  have boldEnd := tag "</b>".toList (by decide)
  have italic := tag "<i>".toList (by decide)
  have italicEnd := tag "</i>".toList (by decide)
  have both : x ∉ "<b><i>".toList ++ "</i></b>".toList := by
    have split : "<b><i>".toList ++ "</i></b>".toList =
        "<b>".toList ++ "<i>".toList ++ ("</i>".toList ++ "</b>".toList) := by decide
    rw [split]
    simp only [List.mem_append, not_or]
    exact ⟨⟨bold, italic⟩, italicEnd, boldEnd⟩
  apply mem_of_mem_emphasize both
  apply mem_of_mem_emphasize (List.not_mem_append bold boldEnd)
  exact mem_of_mem_emphasize (List.not_mem_append italic italicEnd) member

/-- Emphasis leaves a text as it is exactly if there is none in it. -/
theorem emphasized_eq_self_iff {s : Text} : emphasized s = s ↔ StarsMeet s := by
  constructor
  · intro same
    have second (t : Text) : (emphasize 2 "<b>" "</b>" t).count '*' ≤ t.count '*' :=
      (count_star_emphasize (n := 1) (by decide) t).1
    have first (t : Text) : (emphasize 1 "<i>" "</i>" t).count '*' ≤ t.count '*' :=
      (count_star_emphasize (n := 0) (by decide) t).1
    have whole : (emphasize 1 "<i>" "</i>" (emphasize 2 "<b>" "</b>"
        (emphasize 3 "<b><i>" "</i></b>" s))).count '*' = s.count '*' :=
      congrArg (List.count '*') same
    -- no pass can have found anything, since no star is gone at the end
    have left₃ : s.count '*' ≤ (emphasize 3 "<b><i>" "</i></b>" s).count '*' :=
      whole.symm.le.trans ((first _).trans (second _))
    have none₃ : (emphasis 3).finds s = [] := finds_eq_nil_of_count_star (by decide) left₃
    have kept₃ : emphasize 3 "<b><i>" "</i></b>" s = s :=
      (emphasis 3).replace_of_finds_eq_nil _ none₃
    rw [kept₃] at whole
    have left₂ : s.count '*' ≤ (emphasize 2 "<b>" "</b>" s).count '*' :=
      whole.symm.le.trans (first _)
    have none₂ : (emphasis 2).finds s = [] := finds_eq_nil_of_count_star (by decide) left₂
    have kept₂ : emphasize 2 "<b>" "</b>" s = s := (emphasis 2).replace_of_finds_eq_nil _ none₂
    rw [kept₂] at whole
    exact starsMeet_iff.mpr (finds_eq_nil_of_count_star (by decide) whole.symm.le)
  · intro meet
    have kept (n : Nat) (opening closing : String) : emphasize (n + 1) opening closing s = s :=
      (emphasis (n + 1)).replace_of_finds_eq_nil _ (finds_eq_nil_of_starsMeet meet n)
    unfold emphasized
    rw [kept, kept, kept]

theorem links_read_of_parts {label url : Text} (labelled : label ≠ [] ∧ ']' ∉ label)
    (addressed : url ≠ [] ∧ ')' ∉ url) :
    links.read? (Link.source ⟨label, url⟩) = some (⟨label, url⟩, []) := by
  simp only [links, Option.bind_eq_bind, Option.bind_eq_some_iff, Option.pure_def, Prod.exists,
    dropPrefix?_eq_some, run?_eq_some_iff, forall_bne_iff]
  exact ⟨_, rfl, label, _,
    ⟨rfl, labelled.1, labelled.2, Text.stops_cons.mpr (by decide)⟩, _, rfl, url, _,
    ⟨rfl, addressed.1, addressed.2, Text.stops_cons.mpr (by decide)⟩, [], rfl, rfl⟩

theorem renderInline_of_not_mem {s : Text} (uncoded : backtick ∉ s) :
    renderInline s = renderPlain s := by
  have quiet := codeSpans.unread_of_not_mem codeSpans_starts uncoded
  have pieces := codeSpans.cut_append quiet []
  rw [List.append_nil, Pattern.cut_nil] at pieces
  rw [renderInline, pieces]
  by_cases empty : s = []
  · subst empty
    simp [renderPlain, emphasize, Pattern.replace_nil]
  · have bare : ¬ Text.Piece.BeginPlain ([] : List (Text.Piece Text)) := by
      rintro ⟨_, _, same⟩
      cases same
    rw [Text.Piece.pushText_of_not_beginPlain empty bare, List.flatMap_singleton]

theorem emphasized_source {label : Text} (unstarred : '*' ∉ label) (url : Text) :
    emphasized (Link.source ⟨label, url⟩) = Link.source ⟨label, emphasized url⟩ := by
  have front : '*' ∉ '[' :: (label ++ [']', '(']) := by
    simp [unstarred]
  have split (address : Text) : Link.source ⟨label, address⟩ =
      ('[' :: (label ++ [']', '('])) ++ (address ++ [')']) := by
    simp [Link.source]
  rw [split, split, emphasized_append front, emphasized_append_of_not_mem (by decide)]

theorem replace_source {label url : Text} (labelled : label ≠ [] ∧ ']' ∉ label)
    (addressed : url ≠ [] ∧ ')' ∉ url) :
    links.replace Link.html (Link.source ⟨label, url⟩) = Link.html ⟨label, url⟩ := by
  rw [links.replace_of_read? _ (links_read_of_parts labelled addressed), links.replace_nil,
    List.append_nil]

theorem html_eq_iff {label url address : Text} :
    Link.html ⟨label, url⟩ = Link.html ⟨label, address⟩ ↔ url = address := by
  unfold Link.html
  simp only [List.append_assoc, List.append_cancel_left_eq, List.append_cancel_right_eq]

/-- What comes of a link by itself: its label as it is and its address with emphasis made of the
stars in it. So the address is verbatim exactly if its stars leave no text between them. -/
theorem renderInline_source_iff {label url : Text}
    (labelled : label ≠ [] ∧ ']' ∉ label ∧ '*' ∉ label ∧ backtick ∉ label)
    (addressed : url ≠ [] ∧ ')' ∉ url ∧ backtick ∉ url) :
    renderInline (Link.source ⟨label, url⟩) = Link.html ⟨label, emphasized url⟩ ∧
      (renderInline (Link.source ⟨label, url⟩) = Link.html ⟨label, url⟩ ↔ StarsMeet url) := by
  obtain ⟨nonempty, closed, unstarred, uncoded⟩ := labelled
  have plain : backtick ∉ Link.source ⟨label, url⟩ := by
    simp only [Link.source, List.mem_cons, List.mem_append, List.not_mem_nil, or_false, not_or]
    exact ⟨by decide, uncoded, by decide, by decide, addressed.2.2, by decide⟩
  have address : emphasized url ≠ [] ∧ ')' ∉ emphasized url :=
    ⟨emphasized_ne_nil addressed.1,
      fun member => addressed.2.1 (mem_of_mem_emphasized (by decide) member)⟩
  have rendered : renderPlain (Link.source ⟨label, url⟩) =
      links.replace Link.html (emphasized (Link.source ⟨label, url⟩)) := rfl
  have written : renderInline (Link.source ⟨label, url⟩) = Link.html ⟨label, emphasized url⟩ := by
    rw [renderInline_of_not_mem plain, rendered, emphasized_source unstarred,
      replace_source ⟨nonempty, closed⟩ address]
  refine ⟨written, ?_⟩
  rw [written, html_eq_iff]
  exact emphasized_eq_self_iff

/-- Two stars side by side, brackets and an entity in an address. -/
theorem renderInline_source_iff_beside :
    let label := "see [1".toList
    let url := "u**?a=1&amp;b=](".toList
    (label ≠ [] ∧ ']' ∉ label ∧ '*' ∉ label ∧ backtick ∉ label) ∧
      (url ≠ [] ∧ ')' ∉ url ∧ backtick ∉ url) ∧ StarsMeet url ∧
      renderInline (Link.source ⟨label, url⟩) =
        "<a href=\"u**?a=1&amp;b=](\">see [1</a>".toList := by
  intro label url
  have labelled : label ≠ [] ∧ ']' ∉ label ∧ '*' ∉ label ∧ backtick ∉ label := by decide
  have addressed : url ≠ [] ∧ ')' ∉ url ∧ backtick ∉ url := by decide
  have meet : StarsMeet url := emphasized_eq_self_iff.mp (by decide +kernel)
  exact ⟨labelled, addressed, meet, (renderInline_source_iff labelled addressed).2.mpr meet⟩

/-- Stars with text between them in an address. -/
theorem not_verbatim_address :
    let label := "x".toList
    let url := "a*b*c".toList
    (label ≠ [] ∧ ']' ∉ label ∧ '*' ∉ label ∧ backtick ∉ label) ∧
      (url ≠ [] ∧ ')' ∉ url ∧ backtick ∉ url) ∧ label = escape label ∧ url = escape url ∧
      renderInline (Link.source ⟨label, url⟩) = "<a href=\"a<i>b</i>c\">x</a>".toList ∧
      renderInline (Link.source ⟨label, url⟩) ≠ Link.html ⟨label, url⟩ := by
  decide +kernel

end Folio.Markup
