import Folio.Data.Input
import Folio.Proofs.Data.Dialect
import Folio.Proofs.Text.Splitting

/-! White space at the ends of a document. It may hold line ends of its own, so taking it away changes
the lines of the document, but none of those that count. -/
namespace Folio.Data

open Text (Blank isBlank)

variable {c : Char} {w s : Text}

/-- A line feed in front of a document makes an empty line; other white space widens its first
line. -/
theorem significant_cons_of_isBlank (blank : isBlank c = true) (s : Text) :
    significant (c :: s) = significant s := by
  by_cases newline : c = '\n'
  · subst newline
    have lines : Text.splitOn '\n' ('\n' :: s) = [] :: Text.splitOn '\n' s :=
      Text.splitOn_append_cons_of_not_mem List.not_mem_nil s
    simp only [significant, lines, List.map_cons]
    exact List.filter_cons_of_neg (by decide)
  · simp only [significant, Text.map_strip_splitOn_cons blank newline]

theorem significant_concat_of_isBlank (blank : isBlank c = true) (s : Text) :
    significant (s ++ [c]) = significant s := by
  by_cases newline : c = '\n'
  · subst newline
    simp only [significant, Text.splitOn_append_cons, List.map_append, List.filter_append]
    exact List.append_nil _
  · simp only [significant, Text.map_strip_splitOn_concat blank newline]

theorem significant_blank_append (blank : Blank w) (s : Text) :
    significant (w ++ s) = significant s := by
  induction w with
  | nil => rfl
  | cons c w ih =>
    obtain ⟨first, rest⟩ := List.forall_mem_cons.mp blank
    exact (significant_cons_of_isBlank first (w ++ s)).trans (ih rest)

theorem significant_append_blank (blank : Blank w) (s : Text) :
    significant (s ++ w) = significant s := by
  induction w generalizing s with
  | nil => simp only [List.append_nil]
  | cons c w ih =>
    obtain ⟨first, rest⟩ := List.forall_mem_cons.mp blank
    rw [List.append_cons]
    exact (ih rest (s ++ [c])).trans (significant_concat_of_isBlank first s)

theorem significant_strip (s : Text) : significant s.strip = significant s := by
  obtain ⟨front, blankFront, left⟩ := Text.exists_blank_append_stripLeft s
  obtain ⟨back, blankBack, right⟩ := Text.exists_append_blank_stripRight (Text.stripLeft s)
  calc significant s.strip
      = significant (s.strip ++ back) := (significant_append_blank blankBack s.strip).symm
    _ = significant (Text.stripLeft s) := congrArg significant right.symm
    _ = significant (front ++ Text.stripLeft s) :=
        (significant_blank_append blankFront (Text.stripLeft s)).symm
    _ = significant s := congrArg significant left.symm

/-- The lines that count decide what a document denotes. -/
theorem readDialect_eq_of_significant {document other : Text}
    (same : significant document = significant other) :
    readDialect document = readDialect other := by
  simp only [readDialect_eq_read, same]

theorem looksLikeJson_strip (document : Text) :
    looksLikeJson document.strip = looksLikeJson document := by
  simp only [looksLikeJson, Text.strip_strip]

/-- A document that is not in JSON form denotes what its lines denote, without warnings, though it is
read only after the white space at its ends is gone. -/
theorem readInput_of_plain (nesting : Nat) {document : Text}
    (plain : looksLikeJson document = false) :
    readInput nesting document = (readDialect document, []) := by
  have trimmed : readDialect document.strip = readDialect document :=
    readDialect_eq_of_significant (significant_strip document)
  have unlike : looksLikeJson document.strip = false := (looksLikeJson_strip document).trans plain
  by_cases empty : document.strip = []
  · have nothing : readDialect document = [] := by
      rw [← trimmed, empty]
      rfl
    simp only [readInput, empty, nothing, if_true]
  · simp only [readInput, if_neg empty, unlike, Bool.false_eq_true, if_false, trimmed]

/-- Line feeds among other white space at both ends, and a brace that does not come first. -/
theorem readInput_of_plain_edges :
    let document := "\t\n\u2003\u2028 a: {x}\x1f\n - 1\nb:\n- c: d\n-\u00a0e \u0085\n\r\n".toList
    looksLikeJson document = false ∧ readInput 990 document = (readDialect document, []) := by
  intro document
  have plain : looksLikeJson document = false := by decide +kernel
  exact ⟨plain, readInput_of_plain 990 plain⟩

end Folio.Data
