import Folio.Proofs.Markup.Blocks
import Folio.Proofs.Markup.Marked

/-! Escaped text, and the escaped pieces into which lines, cells and the marks of lines cut it. -/
namespace Folio.Markup

open Text (dropPrefix?_eq_some run?_eq_some_iff)

/-- A text piece: without angle brackets, and every ampersand starts an entity. -/
def Escaped (s : Text) : Prop :=
  '<' ∉ s ∧ '>' ∉ s ∧ ∀ before after, s = before ++ '&' :: after →
    "amp;".toList <+: after ∨ "lt;".toList <+: after ∨ "gt;".toList <+: after

theorem entity_shape {e : Text} (member : e ∈ entities) :
    ∃ name, e = '&' :: name ∧ '&' ∉ name ∧ '<' ∉ name ∧ '>' ∉ name ∧
      ("amp;".toList <+: name ∨ "lt;".toList <+: name ∨ "gt;".toList <+: name) := by
  simp only [entities, List.mem_cons, List.not_mem_nil, or_false] at member
  rcases member with rfl | rfl | rfl
  · exact ⟨"amp;".toList, rfl, by decide, by decide, by decide, .inl (List.prefix_refl _)⟩
  · exact ⟨"lt;".toList, rfl, by decide, by decide, by decide, .inr (.inl (List.prefix_refl _))⟩
  · exact ⟨"gt;".toList, rfl, by decide, by decide, by decide, .inr (.inr (List.prefix_refl _))⟩

theorem Marked.escaped {s : Text} (h : Marked [] s) : Escaped s := by
  induction h with
  | nil =>
    refine ⟨List.not_mem_nil, List.not_mem_nil, ?_⟩
    intro before after same
    simp at same
  | @char c s h₁ h₂ h₃ _ ih =>
    refine ⟨?_, ?_, ?_⟩
    · simpa [Ne.symm h₁] using ih.1
    · simpa [Ne.symm h₂] using ih.2.1
    · intro before after same
      cases before with
      | nil => exact absurd (List.cons.inj same).1 h₃
      | cons d before => exact ih.2.2 before after (List.cons.inj same).2
  | @entity e s member _ ih =>
    obtain ⟨name, rfl, single, noLess, noGreater, starts⟩ := entity_shape member
    refine ⟨?_, ?_, ?_⟩
    · simpa [noLess] using ih.1
    · simpa [noGreater] using ih.2.1
    · intro before after same
      cases before with
      | nil =>
        obtain ⟨_, rfl⟩ := List.cons.inj same
        have longer {w : Text} (h : w <+: name) : w <+: name ++ s :=
          h.trans (List.prefix_append name s)
        exact starts.imp longer (Or.imp longer longer)
      | cons d before =>
        obtain ⟨rest, _, inside⟩ := append_eq_of_not_mem single (List.cons.inj same).2
        exact ih.2.2 rest after inside
  | tag member => cases member

theorem marked_escapeChar (c : Char) : Marked [] (escapeChar c) := by
  unfold escapeChar
  by_cases amp : c = '&'
  · rw [if_pos amp]
    exact .ofEntity (by decide)
  · by_cases less : c = '<'
    · rw [if_neg amp, if_pos less]
      exact .ofEntity (by decide)
    · by_cases greater : c = '>'
      · rw [if_neg amp, if_neg less, if_pos greater]
        exact .ofEntity (by decide)
      · rw [if_neg amp, if_neg less, if_neg greater]
        exact .char less greater amp .nil

theorem marked_escape (s : Text) : Marked [] (escape s) :=
  .flatMap fun c _ => marked_escapeChar c

/-- An escaped text is not escaped a second time. -/
theorem escapeKeeping_of_marked {s : Text} (h : Marked [] s) : escapeKeeping s = s := by
  induction h with
  | nil => rfl
  | char h₁ h₂ h₃ _ ih => simp [escapeKeeping, escapeChar, h₁, h₂, h₃, ih]
  | @entity e s member _ ih =>
    simp only [entities, List.mem_cons, List.not_mem_nil, or_false] at member
    rcases member with rfl | rfl | rfl
    · simp [escapeKeeping, escapeChar, startsEntity, ih]
    · simp [escapeKeeping, escapeChar, startsEntity, ih]
    · simp [escapeKeeping, escapeChar, startsEntity, ih]
  | tag member => cases member

/-- Whether a text is cut at characters that no entity holds. -/
def CutsAtForeign (cut : Text → List Text) (s : Text) : Prop :=
  ∃ first rest, cut s = first :: rest ∧
    (s = first ∧ rest = [] ∨
      ∃ c separator t, rest = cut t ∧ s = first ++ c :: (separator ++ t) ∧
        Foreign [] c ∧ ∀ d ∈ separator, Foreign [] d)

theorem CutsAtForeign.ne_nil {cut : Text → List Text} {s : Text} (h : CutsAtForeign cut s) :
    cut s ≠ [] := by
  obtain ⟨first, rest, pieces, _⟩ := h
  rw [pieces]
  exact List.cons_ne_nil first rest

theorem CutsAtForeign.extend {cut : Text → List Text} {c : Char} {s piece : Text}
    {rest : List Text} (h : CutsAtForeign cut s) (pieces : cut s = piece :: rest)
    (longer : cut (c :: s) = (c :: piece) :: rest) : CutsAtForeign cut (c :: s) := by
  obtain ⟨first, rest', same, shape⟩ := h
  rw [pieces] at same
  cases same
  refine ⟨c :: piece, rest, longer, ?_⟩
  rcases shape with ⟨rfl, rfl⟩ | ⟨d, separator, t, rfl, rfl, foreign⟩
  · exact .inl ⟨rfl, rfl⟩
  · exact .inr ⟨d, separator, t, rfl, rfl, foreign⟩

theorem marked_pieces {cut : Text → List Text} (cuts : ∀ s, CutsAtForeign cut s) {s : Text}
    (h : Marked [] s) : ∀ piece ∈ cut s, Marked [] piece := by
  generalize size : s.length = n
  induction n using Nat.strongRecOn generalizing s with
  | _ n ih =>
    subst size
    obtain ⟨first, rest, pieces, ⟨rfl, rfl⟩ | ⟨c, separator, t, rfl, rfl, foreign, others⟩⟩ :=
      cuts s
    · rw [pieces]
      simpa using h
    · obtain ⟨before, behind⟩ := h.split foreign
      have after : Marked [] t := behind.drop others
      have shorter : t.length < (first ++ c :: (separator ++ t)).length := by
        simp only [List.length_append, List.length_cons]
        omega
      rw [pieces]
      intro piece member
      rcases List.mem_cons.mp member with rfl | member
      · exact before
      · exact ih t.length shorter after rfl piece member

theorem cutsAtForeign_lines (s : Text) : CutsAtForeign lines s := by
  induction s using lines.induct with
  | case1 => exact ⟨[], [], rfl, .inl ⟨rfl, rfl⟩⟩
  | case2 s ih =>
    have feed : ∀ d ∈ ['\n'], Foreign [] d := by
      simp only [List.mem_singleton, forall_eq]
      decide
    exact ⟨[], lines s, rfl, .inr ⟨'\r', ['\n'], s, rfl, rfl, by decide, feed⟩⟩
  | case3 s apart ih =>
    exact ⟨[], lines s, rfl, .inr ⟨'\n', [], s, rfl, rfl, by decide, by simp⟩⟩
  | case4 c s apart unended none ih => exact absurd none ih.ne_nil
  | case5 c s apart unended line rest pieces ih =>
    have longer : lines (c :: s) = (c :: line) :: rest := by
      rw [lines, pieces, if_neg unended]
      exact apart
    exact ih.extend pieces longer

theorem cutsAtForeign_splitOn {separator : Char} (foreign : Foreign [] separator) (s : Text) :
    CutsAtForeign (Text.splitOn separator) s := by
  induction s using Text.splitOn.induct separator with
  | case1 => exact ⟨[], [], rfl, .inl ⟨rfl, rfl⟩⟩
  | case2 s ih =>
    have written : Text.splitOn separator (separator :: s) = [] :: Text.splitOn separator s := by
      rw [Text.splitOn, if_pos rfl]
    exact ⟨[], _, written, .inr ⟨separator, [], s, rfl, rfl, foreign, by simp⟩⟩
  | case3 c s other none ih => exact absurd none ih.ne_nil
  | case4 c s other piece rest pieces ih =>
    have longer : Text.splitOn separator (c :: s) = (c :: piece) :: rest := by
      rw [Text.splitOn, pieces, if_neg other]
    exact ih.extend pieces longer

theorem marked_lines {s : Text} (h : Marked [] s) : ∀ line ∈ lines s, Marked [] line :=
  marked_pieces cutsAtForeign_lines h

theorem marked_cells {row : Text} (h : Marked [] row) : ∀ cell ∈ cells row, Marked [] cell := by
  intro cell member
  obtain ⟨inside, _⟩ := List.mem_filter.mp member
  obtain ⟨piece, found, rfl⟩ := List.mem_map.mp inside
  exact (marked_pieces (cutsAtForeign_splitOn (by decide)) h piece found).strip

/-- What a line leaves behind its mark is marked if the line is, and a heading has one of the six
levels. -/
def Line.Sound : Line → Prop
  | .quote rest => Marked [] rest
  | .item _ rest => Marked [] rest
  | .heading level title => 1 ≤ level ∧ level ≤ 6 ∧ Marked [] title
  | _ => True

theorem marked_bullet? {s rest : Text} (h : Marked [] s) (found : bullet? s = some rest) :
    Marked [] rest := by
  obtain ⟨w, blank, same⟩ := Text.exists_blank_append_stripLeft s
  rw [same] at h
  unfold bullet? at found
  split at found
  · rename_i c tail shape
    split at found
    · cases found
      have left := h.drop_blank blank
      rw [shape] at left
      exact (left.split (a := [c]) (by decide)).2
    · cases found
  · cases found

theorem marked_numbered? {s rest : Text} (h : Marked [] s) (found : numbered? s = some rest) :
    Marked [] rest := by
  obtain ⟨w, blank, same⟩ := Text.exists_blank_append_stripLeft s
  rw [same] at h
  have left := h.drop_blank blank
  simp only [numbered?, Option.bind_eq_bind, Option.bind_eq_some_iff, Prod.exists,
    run?_eq_some_iff, dropPrefix?_eq_some] at found
  obtain ⟨digits, tail, ⟨shape, _⟩, rfl⟩ := found
  rw [shape] at left
  have behind := left.split (a := digits) (x := '.') (by decide)
  exact .of_cons (by decide) behind.2

theorem marked_dropFinalNewline {s : Text} (h : Marked [] s) : Marked [] (dropFinalNewline s) := by
  unfold dropFinalNewline
  split
  · rename_i rest shape
    have same : s = rest.reverse ++ ['\n'] := by simpa using congrArg List.reverse shape
    rw [same] at h
    exact (h.split (by decide)).1
  · exact h

theorem sound_heading? {s : Text} (h : Marked [] s) {level : Nat} {title : Text}
    (found : heading? s = some (level, title)) : (Line.heading level title).Sound := by
  simp only [heading?, Option.bind_eq_bind, Option.bind_eq_some_iff, Prod.exists, Option.pure_def,
    run?_eq_some_iff, Option.guard_eq_some', Option.some.injEq, Prod.mk.injEq] at found
  obtain ⟨marks, tail, ⟨rfl, nonempty, all, _⟩, _, few, w, rest, ⟨rfl, _, blank, _⟩, _, _, rfl,
    rfl⟩ := found
  have hash : ∀ c ∈ marks, Foreign [] c := by
    intro c hc
    have same : c = '#' := by simpa using all c hc
    rw [same]
    decide
  have behind := (h.drop hash).drop_blank blank
  exact ⟨List.length_pos_iff.mpr nonempty, few, marked_dropFinalNewline behind⟩

theorem sound_classOf {s : Text} (h : Marked [] s) : (classOf s).Sound := by
  unfold classOf
  cases found : lineRules.findSome? fun rule => rule s with
  | none => trivial
  | some line =>
    obtain ⟨rule, member, fits⟩ := List.exists_of_findSome?_eq_some found
    simp only [lineRules, List.mem_cons, List.not_mem_nil, or_false] at member
    rw [Option.getD_some]
    rcases member with rfl | rfl | rfl | rfl | rfl | rfl | rfl
    · obtain ⟨_, same⟩ := Option.ite_none_right_eq_some.mp fits
      cases same
      trivial
    · obtain ⟨rest, prefixed, rfl⟩ := Option.map_eq_some_iff.mp fits
      rw [dropPrefix?_eq_some.mp prefixed] at h
      exact (h.split (a := "&gt;".toList) (x := ' ') (by decide)).2
    · obtain ⟨rest, item, rfl⟩ := Option.map_eq_some_iff.mp fits
      exact marked_bullet? h item
    · obtain ⟨rest, item, rfl⟩ := Option.map_eq_some_iff.mp fits
      exact marked_numbered? h item
    · obtain ⟨⟨level, title⟩, heading, rfl⟩ := Option.map_eq_some_iff.mp fits
      exact sound_heading? h heading
    · obtain ⟨_, same⟩ := Option.ite_none_right_eq_some.mp fits
      cases same
      trivial
    · obtain ⟨_, same⟩ := Option.ite_none_right_eq_some.mp fits
      cases same
      trivial

end Folio.Markup
