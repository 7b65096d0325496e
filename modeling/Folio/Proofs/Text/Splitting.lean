import Folio.Proofs.Text.Scan

/-! Pieces joined with a separator and texts cut at one: the pieces of a text that is made of two, and
white space at the ends of a text, which is gone once the pieces are trimmed. -/
namespace Folio.Text

section Joining

theorem join_singleton (separator piece : Text) : join separator [piece] = piece :=
  List.intercalate_singleton

theorem join_cons_cons (separator piece next : Text) (pieces : List Text) :
    join separator (piece :: next :: pieces) =
      piece ++ (separator ++ join separator (next :: pieces)) := by
  rw [join, List.intercalate_cons_cons, List.append_assoc, join]

theorem not_mem_join {c : Char} {separator : Text} (apart : c ∉ separator) {pieces : List Text}
    (each : ∀ piece ∈ pieces, c ∉ piece) : c ∉ join separator pieces := by
  induction pieces with
  | nil => exact List.not_mem_nil
  | cons piece pieces ih =>
    obtain ⟨own, others⟩ := List.forall_mem_cons.mp each
    cases pieces with
    | nil => simpa only [join_singleton] using own
    | cons next pieces =>
      simp only [join_cons_cons, List.mem_append, not_or]
      exact ⟨own, apart, ih others⟩

end Joining

section Trimming

variable {c : Char} {s : Text}

theorem strip_cons_of_isBlank (blank : isBlank c = true) (s : Text) : strip (c :: s) = strip s := by
  simp only [strip, stripLeft, List.dropWhile_cons_of_pos blank]

theorem strip_concat_of_isBlank (blank : isBlank c = true) (s : Text) :
    strip (s ++ [c]) = strip s := by
  induction s with
  | nil => exact strip_cons_of_isBlank blank []
  | cons d s ih =>
    cases first : isBlank d with
    | true => simpa only [List.cons_append, strip_cons_of_isBlank first] using ih
    | false =>
      have left (t : Text) : stripLeft (d :: t) = d :: t := stripLeft_eq_self (stops_cons.mpr first)
      simp only [strip, List.cons_append, left, stripRight, dropEndWhile, List.reverse_cons,
        List.reverse_concat, List.dropWhile_cons_of_pos blank]

theorem strip_eq_self (front : Stops isBlank s) (back : Stops isBlank s.reverse) : strip s = s := by
  have right : stripRight s = s := List.reverse_eq_iff.mpr (stripLeft_eq_self back)
  rw [strip, stripLeft_eq_self front, right]

theorem stops_reverse_strip (s : Text) : Stops isBlank (strip s).reverse := by
  simp only [strip, stripRight, dropEndWhile, List.reverse_reverse]
  exact stops_dropWhile isBlank _

/-- Nothing is trimmed from a text that begins and ends with trimmed texts. -/
theorem strip_between {t : Text} (front : s ≠ [] ∧ strip s = s) (back : t ≠ [] ∧ strip t = t)
    (middle : Text) : strip (s ++ (middle ++ t)) = s ++ (middle ++ t) := by
  have extends_ {u : Text} (nonempty : u ≠ []) (stops : Stops isBlank u) (v : Text) :
      Stops isBlank (u ++ v) := by
    cases u with
    | nil => exact absurd rfl nonempty
    | cons d u => exact stops_cons.mpr (stops_cons.mp stops)
  have first : Stops isBlank s := front.2 ▸ stops_strip s
  have last : Stops isBlank t.reverse := back.2 ▸ stops_reverse_strip t
  apply strip_eq_self
  · exact extends_ front.1 first (middle ++ t)
  · simp only [List.reverse_append, List.append_assoc]
    exact extends_ (List.reverse_ne_nil_iff.mpr back.1) last _

end Trimming

section Pieces

variable {separator c : Char} {s : Text}

theorem splitOn_eq_list (separator : Char) (s : Text) :
    splitOn separator s = List.splitOn separator s := by
  induction s with
  | nil => rfl
  | cons c s ih =>
    simp only [splitOn, ih, List.splitOn_cons_eq_if_modifyHead, beq_iff_eq]
    split
    · rfl
    · cases pieces : List.splitOn separator s with
      | nil => exact absurd pieces (List.splitOn_ne_nil separator s)
      | cons piece pieces => rfl

theorem splitOn_append_cons (separator : Char) (s t : Text) :
    splitOn separator (s ++ separator :: t) = splitOn separator s ++ splitOn separator t := by
  simp only [splitOn_eq_list, List.splitOn_append_cons_self]

theorem splitOn_append_cons_of_not_mem (absent : separator ∉ s) (t : Text) :
    splitOn separator (s ++ separator :: t) = s :: splitOn separator t := by
  rw [splitOn_append_cons, splitOn_of_not_mem absent, List.singleton_append]

theorem exists_splitOn_eq_cons (separator : Char) (s : Text) :
    ∃ pieces, splitOn separator s = s.takeWhile (· != separator) :: pieces := by
  by_cases member : separator ∈ s
  · obtain ⟨before, behind, rfl, absent⟩ := List.eq_append_cons_of_mem member
    have first : (before ++ separator :: behind).takeWhile (· != separator) = before :=
      takeWhile_append_of_stops (forall_bne_iff.mpr absent) (stops_cons.mpr (by simp))
    exact ⟨_, by rw [first, splitOn_append_cons_of_not_mem absent]⟩
  · have whole : s.takeWhile (· != separator) = s :=
      List.takeWhile_eq_self_iff.mpr (forall_bne_iff.mpr member)
    exact ⟨[], by rw [whole, splitOn_of_not_mem member]⟩

/-- White space in front of a text goes to its first piece and is gone when that is trimmed. -/
theorem map_strip_splitOn_cons (blank : isBlank c = true) (other : c ≠ separator) (s : Text) :
    (splitOn separator (c :: s)).map strip = (splitOn separator s).map strip := by
  cases pieces : splitOn separator s with
  | nil => exact absurd pieces (splitOn_ne_nil separator s)
  | cons piece rest =>
    simp only [splitOn, if_neg other, pieces, List.map_cons, strip_cons_of_isBlank blank]

theorem exists_append_cons_of_mem {x : Char} (member : x ∈ s) :
    ∃ before behind, s = before ++ x :: behind ∧ x ∉ behind := by
  obtain ⟨behind, before, mirrored, absent⟩ :=
    List.eq_append_cons_of_mem (List.mem_reverse.mpr member)
  refine ⟨before.reverse, behind.reverse, ?_, by simpa using absent⟩
  rw [List.reverse_eq_iff] at mirrored
  simpa using mirrored

/-- Behind a text it goes to the last piece. -/
theorem map_strip_splitOn_concat (blank : isBlank c = true) (other : c ≠ separator) (s : Text) :
    (splitOn separator (s ++ [c])).map strip = (splitOn separator s).map strip := by
  have alone {last : Text} (absent : separator ∉ last) :
      (splitOn separator (last ++ [c])).map strip = (splitOn separator last).map strip := by
    have absent' : separator ∉ last ++ [c] := by simpa [absent] using Ne.symm other
    simp only [splitOn_of_not_mem absent, splitOn_of_not_mem absent', List.map_cons, List.map_nil,
      strip_concat_of_isBlank blank]
  by_cases member : separator ∈ s
  · obtain ⟨before, last, rfl, absent⟩ := exists_append_cons_of_mem member
    simp only [List.append_assoc, List.cons_append, splitOn_append_cons, List.map_append,
      alone absent]
  · exact alone member

end Pieces

end Folio.Text
