import Folio.Proofs.Markup.Escaping

/-! The lines of a text that is made of two, and the lines of an escaped text. -/
namespace Folio.Markup

theorem lines_newline (s : Text) : lines ('\n' :: s) = [] :: lines s := by
  simp [lines]

theorem lines_cons {c : Char} {s line : Text} {rest : List Text} (unended : c ≠ '\n')
    (apart : ∀ t, c = '\r' → s ≠ '\n' :: t) (pieces : lines s = line :: rest) :
    lines (c :: s) = (c :: line) :: rest := by
  rw [lines, if_neg unended, pieces]
  exact apart

theorem lines_append_of_solid {s t line : Text} {rest : List Text}
    (solid : ∀ c ∈ s, c ≠ '\n' ∧ c ≠ '\r') (pieces : lines t = line :: rest) :
    lines (s ++ t) = (s ++ line) :: rest := by
  induction s with
  | nil => exact pieces
  | cons c s ih =>
    have own := solid c (by simp)
    exact lines_cons own.1 (fun _ return_ => absurd return_ own.2)
      (ih fun d member => solid d (List.mem_cons_of_mem c member))

theorem unreturned_of_cons {c : Char} {s : Text} (unreturned : (c :: s).getLast? ≠ some '\r') :
    s.getLast? ≠ some '\r' :=
  fun last => unreturned (by simp [List.getLast?_cons, last])

/-- A line feed without a carriage return before it parts two texts. -/
theorem lines_append_newline {s : Text} (unreturned : s.getLast? ≠ some '\r') (t : Text) :
    lines (s ++ '\n' :: t) = lines s ++ lines t := by
  induction s using lines.induct with
  | case1 => rfl
  | case2 s ih =>
    have rest := unreturned_of_cons (unreturned_of_cons unreturned)
    simp only [List.cons_append, lines, ih rest]
  | case3 s apart ih =>
    have rest := unreturned_of_cons unreturned
    rw [List.cons_append, lines_newline, lines_newline, ih rest]
    rfl
  | case4 c s apart unended none ih => exact absurd none (cutsAtForeign_lines s).ne_nil
  | case5 c s apart unended line rest pieces ih =>
    have joined : lines (s ++ '\n' :: t) = line :: (rest ++ lines t) := by
      rw [ih (unreturned_of_cons unreturned), pieces]
      rfl
    have apart' : ∀ u, c = '\r' → s ++ '\n' :: t ≠ '\n' :: u := by
      rintro u rfl same
      cases s with
      | nil => exact unreturned rfl
      | cons d s =>
        obtain ⟨rfl, _⟩ := List.cons.inj same
        exact apart s rfl rfl
    rw [List.cons_append, lines_cons unended apart' joined, lines_cons unended apart pieces]
    rfl

/-- A character that no entity holds stands in an escaped text only for itself. -/
theorem eq_of_mem_escapeChar {x c : Char} (foreign : Foreign [] x) (member : x ∈ escapeChar c) :
    c = x := by
  have entity : ∀ e ∈ entities, x ∉ e := foreign
  unfold escapeChar at member
  split at member
  · exact absurd member (entity _ (by decide))
  · split at member
    · exact absurd member (entity _ (by decide))
    · split at member
      · exact absurd member (entity _ (by decide))
      · exact (List.mem_singleton.mp member).symm

theorem exists_cons_escapeChar (c : Char) : ∃ d rest, escapeChar c = d :: rest := by
  unfold escapeChar
  split
  · exact ⟨_, _, rfl⟩
  · split
    · exact ⟨_, _, rfl⟩
    · split <;> exact ⟨_, _, rfl⟩

theorem exists_cons_of_escape {x : Char} (foreign : Foreign [] x) {s t : Text}
    (begins : escape s = x :: t) : ∃ rest, s = x :: rest := by
  cases s with
  | nil => cases begins
  | cons c s =>
    obtain ⟨d, rest, shape⟩ := exists_cons_escapeChar c
    have written : escape (c :: s) = d :: (rest ++ escape s) := by simp [escape, shape]
    have same : d = x := (List.cons.inj (written.symm.trans begins)).1
    have own : c = x := eq_of_mem_escapeChar foreign (by simp [shape, same])
    exact ⟨s, by rw [own]⟩

theorem lines_escape (s : Text) : lines (escape s) = (lines s).map escape := by
  induction s using lines.induct with
  | case1 => rfl
  | case2 s ih =>
    have written : escape ('\r' :: '\n' :: s) = '\r' :: '\n' :: escape s := rfl
    rw [written, lines, lines, ih]
    rfl
  | case3 s apart ih =>
    have written : escape ('\n' :: s) = '\n' :: escape s := rfl
    rw [written, lines_newline, lines_newline, ih]
    rfl
  | case4 c s apart unended none ih => exact absurd none (cutsAtForeign_lines s).ne_nil
  | case5 c s apart unended line rest pieces ih =>
    have escaped : lines (escape s) = escape line :: rest.map escape := by rw [ih, pieces]; rfl
    rw [lines_cons unended apart pieces]
    show lines (escapeChar c ++ escape s) = (escapeChar c ++ escape line) :: rest.map escape
    by_cases return_ : c = '\r'
    · subst return_
      refine lines_cons (by decide) (fun t _ same => ?_) escaped
      obtain ⟨s', rfl⟩ := exists_cons_of_escape (x := '\n') (by decide) same
      exact apart s' rfl rfl
    · refine lines_append_of_solid (fun d member => ⟨?_, ?_⟩) escaped
      · rintro rfl
        exact unended (eq_of_mem_escapeChar (by decide) member)
      · rintro rfl
        exact return_ (eq_of_mem_escapeChar (by decide) member)

theorem isPrefixOf_escape {x : Char} (foreign : Foreign [] x) (kept : escapeChar x = [x]) (n : Nat)
    (s : Text) : (List.replicate n x).isPrefixOf (escape s) = (List.replicate n x).isPrefixOf s := by
  induction n generalizing s with
  | zero => rfl
  | succ n ih =>
    cases s with
    | nil => rfl
    | cons c s =>
      by_cases same : c = x
      · subst same
        have written : escape (c :: s) = c :: escape s := by simp [escape, kept]
        rw [written, List.replicate_succ, List.isPrefixOf, List.isPrefixOf, ih]
      · obtain ⟨d, rest, shape⟩ := exists_cons_escapeChar c
        have other : x ≠ d := by
          rintro rfl
          exact same (eq_of_mem_escapeChar foreign (by simp [shape]))
        have written : escape (c :: s) = d :: (rest ++ escape s) := by simp [escape, shape]
        rw [written, List.replicate_succ, List.isPrefixOf, List.isPrefixOf,
          beq_false_of_ne other, beq_false_of_ne (Ne.symm same), Bool.false_and, Bool.false_and]

theorem isFence_escape (s : Text) : isFence (escape s) = isFence s :=
  isPrefixOf_escape (by decide) rfl 3 s

end Folio.Markup
