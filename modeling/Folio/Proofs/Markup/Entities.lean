import Folio.Proofs.Markup.Balance
import Folio.Proofs.Markup.Fences

/-! Escaping that keeps entities: its results are the texts in which every ampersand starts an
entity, and it changes none of them again. -/
namespace Folio.Markup

open Text (run? run?_eq_some_iff stops_cons)

/-- What stands between the ampersand and the semicolon of a character entity. -/
inductive Reference : Text → Prop
  | named {name : Text} : name ∈ ["amp", "lt", "gt", "quot"].map String.toList → Reference name
  | decimal {digits : Text} : digits ≠ [] → (∀ c ∈ digits, Text.isDigit c = true) →
      Reference ('#' :: digits)
  | hexadecimal {digits : Text} : digits ≠ [] →
      (∀ c ∈ digits, (Text.hexValue? c).isSome = true) → Reference ('#' :: 'x' :: digits)

/-- A text without angle brackets in which every ampersand starts an entity. -/
def Settled (s : Text) : Prop :=
  '<' ∉ s ∧ '>' ∉ s ∧ ∀ before after, s = before ++ '&' :: after →
    ∃ body rest, Reference body ∧ after = body ++ ';' :: rest

section Reference

theorem endsReference_iff {digit : Char → Bool} (foreign : digit ';' = false) {s : Text} :
    endsReference digit s = true ↔
      ∃ digits rest, digits ≠ [] ∧ (∀ c ∈ digits, digit c = true) ∧ s = digits ++ ';' :: rest := by
  constructor
  · intro ends
    unfold endsReference at ends
    split at ends
    · rename_i digits rest found
      obtain ⟨same, nonempty, all, -⟩ := run?_eq_some_iff.mp found
      exact ⟨digits, rest, nonempty, all, same⟩
    · cases ends
  · rintro ⟨digits, rest, nonempty, all, rfl⟩
    have found : run? digit (digits ++ ';' :: rest) = some (digits, ';' :: rest) :=
      run?_eq_some_iff.mpr ⟨rfl, nonempty, all, stops_cons.mpr foreign⟩
    simp only [endsReference, found]

theorem endsReference_decimal_iff {s : Text} : endsReference Text.isDigit s = true ↔
    ∃ digits rest, digits ≠ [] ∧ (∀ c ∈ digits, Text.isDigit c = true) ∧
      s = digits ++ ';' :: rest :=
  endsReference_iff (by decide)

theorem endsReference_hexadecimal_iff {s : Text} :
    endsReference (fun c => (Text.hexValue? c).isSome) s = true ↔
      ∃ digits rest, digits ≠ [] ∧ (∀ c ∈ digits, (Text.hexValue? c).isSome = true) ∧
        s = digits ++ ';' :: rest :=
  endsReference_iff (by decide)

/-- The digits of a number do not begin with the mark of a hexadecimal one. -/
theorem startsEntity_decimal {digits rest : Text} (nonempty : digits ≠ [])
    (all : ∀ c ∈ digits, Text.isDigit c = true) :
    startsEntity ('#' :: (digits ++ ';' :: rest)) = true := by
  obtain ⟨c, digits, rfl⟩ := List.exists_cons_of_ne_nil nonempty
  have other : c ≠ 'x' := by
    rintro rfl
    exact absurd (all 'x' (by simp)) (by decide)
  have ends : endsReference Text.isDigit (c :: (digits ++ ';' :: rest)) = true :=
    endsReference_decimal_iff.mpr ⟨c :: digits, rest, nonempty, all, rfl⟩
  unfold startsEntity
  rw [List.cons_append]
  split
  · rename_i hex
    exact absurd (List.cons.inj (List.cons.inj hex).2).1 other
  · rename_i same
    obtain ⟨-, rfl⟩ := List.cons.inj same
    rw [ends, Bool.or_true]
  · rename_i neither
    exact absurd rfl (neither _)

theorem startsEntity_iff {s : Text} :
    startsEntity s = true ↔ ∃ body rest, Reference body ∧ s = body ++ ';' :: rest := by
  constructor
  · intro starts
    unfold startsEntity at starts
    rcases (Bool.or_eq_true _ _).mp starts with named | numbered
    · simp only [List.any_eq_true, List.isPrefixOf_iff_prefix] at named
      obtain ⟨name, member, rest, rfl⟩ := named
      simp only [List.mem_cons, List.not_mem_nil, or_false] at member
      rcases member with rfl | rfl | rfl | rfl
      · exact ⟨"amp".toList, rest, .named (by decide), rfl⟩
      · exact ⟨"lt".toList, rest, .named (by decide), rfl⟩
      · exact ⟨"gt".toList, rest, .named (by decide), rfl⟩
      · exact ⟨"quot".toList, rest, .named (by decide), rfl⟩
    · split at numbered
      · obtain ⟨digits, rest, nonempty, all, rfl⟩ := endsReference_hexadecimal_iff.mp numbered
        exact ⟨'#' :: 'x' :: digits, rest, .hexadecimal nonempty all, rfl⟩
      · obtain ⟨digits, rest, nonempty, all, rfl⟩ := endsReference_decimal_iff.mp numbered
        exact ⟨'#' :: digits, rest, .decimal nonempty all, rfl⟩
      · cases numbered
  · rintro ⟨body, rest, reference, rfl⟩
    cases reference with
    | named member =>
      simp only [List.map_cons, List.map_nil, List.mem_cons, List.not_mem_nil, or_false] at member
      rcases member with rfl | rfl | rfl | rfl <;> rfl
    | decimal nonempty all => exact startsEntity_decimal nonempty all
    | @hexadecimal digits nonempty all =>
      have ends : endsReference (fun c => (Text.hexValue? c).isSome)
          (digits ++ ';' :: rest) = true :=
        endsReference_hexadecimal_iff.mpr ⟨digits, rest, nonempty, all, rfl⟩
      simp only [startsEntity, List.cons_append, ends, Bool.or_true]

/-- No character of an entity behind its ampersand is itself escaped. -/
theorem Reference.escapeChar_eq {body : Text} (h : Reference body) :
    ∀ c ∈ body ++ [';'], c ≠ '&' ∧ escapeChar c = [c] := by
  have plain {c : Char} (amp : c ≠ '&') (less : c ≠ '<') (greater : c ≠ '>') :
      c ≠ '&' ∧ escapeChar c = [c] :=
    ⟨amp, by simp [escapeChar, amp, less, greater]⟩
  have of_test (test : Char → Bool) (amp : test '&' = false) (less : test '<' = false)
      (greater : test '>' = false) {c : Char} (passes : test c = true) :
      c ≠ '&' ∧ escapeChar c = [c] := by
    refine plain ?_ ?_ ?_ <;> rintro rfl <;> simp_all
  intro c member
  rcases List.mem_append.mp member with inside | final
  · cases h with
    | named known =>
      have all : ∀ name ∈ ["amp", "lt", "gt", "quot"].map String.toList,
          (name.all fun c => c != '&' && escapeChar c == [c]) = true := by decide +kernel
      simpa using List.all_eq_true.mp (all body known) c inside
    | decimal _ all =>
      rcases List.mem_cons.mp inside with rfl | inside
      · decide
      · exact of_test Text.isDigit (by decide) (by decide) (by decide) (all c inside)
    | hexadecimal _ all =>
      rcases List.mem_cons.mp inside with rfl | inside
      · decide
      · rcases List.mem_cons.mp inside with rfl | inside
        · decide
        · exact of_test (fun c => (Text.hexValue? c).isSome) (by decide) (by decide) (by decide)
            (all c inside)
  · rw [List.mem_singleton.mp final]
    decide

end Reference

section Keeping

theorem escapeKeeping_cons {c : Char} (amp : c ≠ '&') (s : Text) :
    escapeKeeping (c :: s) = escapeChar c ++ escapeKeeping s := by
  simp [escapeKeeping, amp]

theorem escapeKeeping_append {w : Text} (kept : ∀ c ∈ w, c ≠ '&' ∧ escapeChar c = [c]) (s : Text) :
    escapeKeeping (w ++ s) = w ++ escapeKeeping s := by
  induction w with
  | nil => rfl
  | cons c w ih =>
    obtain ⟨amp, self⟩ := kept c (by simp)
    rw [List.cons_append, escapeKeeping_cons amp, self,
      ih fun d member => kept d (List.mem_cons_of_mem c member)]
    rfl

/-- What follows a kept ampersand is not touched, so that ampersand is kept again. -/
theorem startsEntity_escapeKeeping {s : Text} (starts : startsEntity s = true) :
    startsEntity (escapeKeeping s) = true := by
  obtain ⟨body, rest, reference, rfl⟩ := startsEntity_iff.mp starts
  have whole : body ++ ';' :: rest = (body ++ [';']) ++ rest := by simp
  rw [whole, escapeKeeping_append reference.escapeChar_eq]
  exact startsEntity_iff.mpr ⟨body, escapeKeeping rest, reference, by simp⟩

end Keeping

/-- A text in which the ampersands that start no entity are replaced. -/
def escapeBare : Text → Text
  | [] => []
  | c :: s => (if c = '&' ∧ startsEntity s = false then "&amp;".toList else [c]) ++ escapeBare s

/-- Bare ampersands first, and then the brackets one after the other, make the same text. -/
theorem escapeKeeping_eq_replacements (s : Text) :
    escapeKeeping s =
      replaceEach '>' "&gt;".toList (replaceEach '<' "&lt;".toList (escapeBare s)) := by
  have append (c : Char) (entity t u : Text) :
      replaceEach c entity (t ++ u) = replaceEach c entity t ++ replaceEach c entity u :=
    List.flatMap_append
  induction s with
  | nil => rfl
  | cons c s ih =>
    rw [escapeKeeping, escapeBare, append, append, ih]
    congr 1
    by_cases amp : c = '&'
    · subst amp
      cases startsEntity s <;> decide
    · have other (kept : Prop) : ¬ (c = '&' ∧ kept) := fun both => amp both.1
      rw [if_neg (other _), if_neg (other _)]
      simp only [escapeChar, amp, replaceEach]
      by_cases less : c = '<'
      · subst less
        decide
      · by_cases greater : c = '>' <;> simp [less, greater]

namespace Settled

theorem nil : Settled [] := by
  refine ⟨List.not_mem_nil, List.not_mem_nil, fun before after same => ?_⟩
  simp at same

theorem char {c : Char} {s : Text} (less : c ≠ '<') (greater : c ≠ '>') (amp : c ≠ '&')
    (h : Settled s) : Settled (c :: s) := by
  obtain ⟨open_, close, ampersands⟩ := h
  refine ⟨by simp [open_, less.symm], by simp [close, greater.symm], ?_⟩
  rintro (_ | ⟨d, before⟩) after same
  · exact absurd (List.cons.inj same).1 amp
  · exact ampersands before after (List.cons.inj same).2

theorem entity {s : Text} (starts : startsEntity s = true) (h : Settled s) :
    Settled ('&' :: s) := by
  obtain ⟨open_, close, ampersands⟩ := h
  refine ⟨by simp [open_], by simp [close], ?_⟩
  rintro (_ | ⟨d, before⟩) after same
  · obtain ⟨-, rfl⟩ := List.cons.inj same
    exact startsEntity_iff.mp starts
  · exact ampersands before after (List.cons.inj same).2

theorem tail {c : Char} {s : Text} (h : Settled (c :: s)) : Settled s := by
  obtain ⟨open_, close, ampersands⟩ := h
  refine ⟨fun member => open_ (by simp [member]), fun member => close (by simp [member]), ?_⟩
  rintro before after rfl
  exact ampersands (c :: before) after rfl

theorem startsEntity {s : Text} (h : Settled ('&' :: s)) : startsEntity s = true :=
  startsEntity_iff.mpr (h.2.2 [] s rfl)

theorem append {w s : Text} (kept : ∀ c ∈ w, c ≠ '&' ∧ escapeChar c = [c]) (h : Settled s) :
    Settled (w ++ s) := by
  induction w with
  | nil => exact h
  | cons c w ih =>
    obtain ⟨amp, self⟩ := kept c (by simp)
    refine char ?_ ?_ amp (ih fun d member => kept d (List.mem_cons_of_mem c member))
    · rintro rfl
      exact absurd self (by decide)
    · rintro rfl
      exact absurd self (by decide)

theorem reference {body s : Text} (r : Reference body) (h : Settled s) :
    Settled ('&' :: (body ++ [';'] ++ s)) := by
  refine .entity (startsEntity_iff.mpr ⟨body, s, r, ?_⟩) (append r.escapeChar_eq h)
  simp

theorem escapeChar_append (c : Char) {s : Text} (h : Settled s) : Settled (escapeChar c ++ s) := by
  rcases escapeChar_cases c with entity | ⟨⟨amp, less, greater⟩, self⟩
  · simp only [entityMeanings, List.mem_cons, List.not_mem_nil, or_false, Prod.mk.injEq] at entity
    have amp : Reference "amp".toList := .named (by decide)
    have less : Reference "lt".toList := .named (by decide)
    have greater : Reference "gt".toList := .named (by decide)
    rcases entity with ⟨shape, -⟩ | ⟨shape, -⟩ | ⟨shape, -⟩
    · rw [shape]
      exact reference amp h
    · rw [shape]
      exact reference less h
    · rw [shape]
      exact reference greater h
  · rw [self]
    exact char less greater amp h

end Settled

theorem settled_escapeKeeping (s : Text) : Settled (escapeKeeping s) := by
  induction s with
  | nil => exact .nil
  | cons c s ih =>
    by_cases keeps : c = '&' ∧ startsEntity s = true
    · obtain ⟨rfl, starts⟩ := keeps
      simp only [escapeKeeping, starts, and_self, if_true]
      exact .entity (startsEntity_escapeKeeping starts) ih
    · rw [escapeKeeping, if_neg keeps]
      exact .escapeChar_append c ih

theorem settled_escape (s : Text) : Settled (escape s) := by
  induction s with
  | nil => exact .nil
  | cons c s ih => exact .escapeChar_append c ih

theorem escapeKeeping_of_settled {s : Text} (h : Settled s) : escapeKeeping s = s := by
  induction s with
  | nil => rfl
  | cons c s ih =>
    have rest := ih h.tail
    by_cases amp : c = '&'
    · subst amp
      simp [escapeKeeping, h.startsEntity, rest]
    · have less : c ≠ '<' := fun same => h.1 (by simp [same])
      have greater : c ≠ '>' := fun same => h.2.1 (by simp [same])
      rw [escapeKeeping_cons amp, rest]
      simp [escapeChar, amp, less, greater]

/-- The texts that escaping with entities kept leaves alone. -/
theorem escapeKeeping_eq_self_iff {s : Text} : escapeKeeping s = s ↔ Settled s :=
  ⟨fun same => same ▸ settled_escapeKeeping s, escapeKeeping_of_settled⟩

/-- Code in an escaped line is put between its tags as it is. -/
theorem renderInline_escape (s : Text) : renderInline (escape s) =
    (codeSpans.cut (escape s)).flatMap fun
      | .plain t => renderPlain t
      | .found code => element "code".toList code := by
  have pieces := marked_codePieces (marked_escape s)
  apply List.flatMap_congr
  intro piece member
  cases piece with
  | plain t => rfl
  | found code =>
    have inside : Marked [] code := pieces (.found code) member
    simp only [escapeKeeping_of_marked inside]
    simp [element]

/-- Escaping with entities kept reaches, in one pass, a text in which all is escaped, and it leaves
exactly those texts alone. So it does nothing to its own result or to an escaped text: code spans
and fences, which are given escaped text, escape it no second time. -/
theorem escapeKeeping_idempotent :
    (∀ s, escapeKeeping (escapeKeeping s) = escapeKeeping s) ∧
      (∀ s, escapeKeeping (escape s) = escape s) ∧
      (∀ s, escapeKeeping s = s ↔ Settled s) ∧
      (∀ s, renderInline (escape s) = (codeSpans.cut (escape s)).flatMap fun
        | .plain t => renderPlain t
        | .found code => element "code".toList code) ∧
      ∀ code : List Text, (Block.code (code.map escape)).html = codeBlock code :=
  ⟨fun s => escapeKeeping_of_settled (settled_escapeKeeping s),
    fun s => escapeKeeping_of_settled (settled_escape s), fun _ => escapeKeeping_eq_self_iff,
    renderInline_escape, html_code_escape⟩

/-- Ampersands before half an entity, before numbers of both kinds and before a bracket. -/
example : escapeKeeping "&&amp;&#x;&#1٣;&#xg;&<&quot".toList =
    "&amp;&amp;&amp;#x;&#1٣;&amp;#xg;&amp;&lt;&amp;quot".toList := by decide +kernel

end Folio.Markup
