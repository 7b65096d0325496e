import Folio.Proofs.Markup.Lines
import Folio.Proofs.Markup.OpenBlocks
import Mathlib.Algebra.Group.Nat.Even

/-! Documents one after the other. A blank line outside a fence, and the end of a document, bring a
converter back to where it began but for the log, and the white space that is left out between tags
never reaches from one document into the next. -/
namespace Folio.Markup

open Text (Gap Stops allBlank isBlank dropPrefix?_eq_some run?_eq_some_iff stops_cons)

section Gaps

open Converter (closeGaps tagGaps)

theorem gaps_read {s r : Text} {u : Unit} :
    tagGaps.read? s = some (u, r) ↔ ∃ w, Gap w ∧ s = '>' :: (w ++ '<' :: r) := by
  simp only [tagGaps, Option.bind_eq_bind, Option.bind_eq_some_iff, Option.pure_def,
    Prod.exists, dropPrefix?_eq_some, run?_eq_some_iff]
  constructor
  · rintro ⟨_, rfl, w, _, ⟨rfl, nonempty, blank, _⟩, _, rfl, out⟩
    cases out
    exact ⟨w, ⟨nonempty, blank⟩, rfl⟩
  · rintro ⟨w, ⟨nonempty, blank⟩, rfl⟩
    exact ⟨_, rfl, w, _, ⟨rfl, nonempty, blank, stops_cons.mpr (by decide)⟩, r, rfl, rfl⟩

/-- A text that no white space ends. -/
def EndsSolid (s : Text) : Prop := ∀ c ∈ s.getLast?, isBlank c = false

theorem EndsSolid.of_append {s t : Text} (h : EndsSolid (s ++ t)) : EndsSolid t := by
  cases t with
  | nil => intro c last; cases last
  | cons c t =>
    intro d last
    exact h d (by simpa [List.getLast?_append] using last)

theorem not_endsSolid_of_gap {w : Text} (gap : Gap w) : ¬ EndsSolid w := by
  intro ends
  have last := List.getLast?_eq_some_getLast gap.1
  have solid := ends _ last
  rw [gap.2 _ (List.getLast_mem gap.1)] at solid
  cases solid

/-- What is left out at the front of a text lies in its first part, if no white space stands on
either side of the seam. -/
theorem gaps_read_append {s t r : Text} {u : Unit} (nonempty : s ≠ []) (ends : EndsSolid s)
    (begins : Stops isBlank t) (found : tagGaps.read? (s ++ t) = some (u, r)) :
    ∃ rest, tagGaps.read? s = some (u, rest) ∧ r = rest ++ t := by
  obtain ⟨w, gap, same⟩ := gaps_read.mp found
  have inside : s ≠ '>' :: w := by
    rintro rfl
    exact not_endsSolid_of_gap gap (ends.of_append (s := ['>']))
  have whole : s ++ t = ('>' :: w) ++ '<' :: r := same
  rcases List.append_eq_append_iff.mp whole with ⟨beyond, out, split⟩ | ⟨rest, rfl, split⟩
  · exfalso
    cases beyond with
    | nil => exact inside (by simpa using out.symm)
    | cons c beyond =>
      -- the second text would begin with the white space of the gap
      have blank : isBlank c = true := by
        cases s with
        | nil => exact absurd rfl nonempty
        | cons d s =>
          obtain ⟨_, rfl⟩ := List.cons.inj out
          exact gap.2 c (by simp)
      subst split
      rw [stops_cons.mp begins] at blank
      cases blank
  · cases rest with
    | nil => exact absurd (List.append_nil _) inside
    | cons c rest =>
      obtain ⟨rfl, rfl⟩ := List.cons.inj split
      exact ⟨rest, gaps_read.mpr ⟨w, gap, rfl⟩, rfl⟩

theorem closeGaps_append_of_solid {s t : Text} (ends : EndsSolid s) (begins : Stops isBlank t) :
    closeGaps (s ++ t) = closeGaps s ++ closeGaps t := by
  generalize size : s.length = n
  induction n using Nat.strongRecOn generalizing s with
  | _ n ih =>
    subst size
    cases s with
    | nil => simp [closeGaps, Text.Pattern.replace_nil]
    | cons c s =>
      cases found : tagGaps.read? (c :: s) with
      | some out =>
        obtain ⟨u, r⟩ := out
        obtain ⟨w, gap, same⟩ := gaps_read.mp found
        have longer : tagGaps.read? (c :: s ++ t) = some (u, r ++ t) :=
          gaps_read.mpr ⟨w, gap, by rw [same]; simp⟩
        have rest : EndsSolid r := by
          have split : c :: s = ('>' :: w ++ ['<']) ++ r := by rw [same]; simp
          rw [split] at ends
          exact ends.of_append
        have tail := ih r.length (tagGaps.shorter found) rest rfl
        simp only [closeGaps, tagGaps.replace_of_read? _ longer, tagGaps.replace_of_read? _ found]
        simp only [closeGaps] at tail
        rw [tail, List.append_assoc]
      | none =>
        have unread : tagGaps.read? (c :: (s ++ t)) = none := by
          by_contra read
          obtain ⟨⟨u, r⟩, read⟩ := Option.ne_none_iff_exists'.mp read
          obtain ⟨rest, inner, _⟩ := gaps_read_append (List.cons_ne_nil c s) ends begins read
          rw [found] at inner
          cases inner
        have tail := ih s.length (by simp) (ends.of_append (s := [c])) rfl
        simp only [closeGaps] at tail ⊢
        rw [List.cons_append, tagGaps.replace_cons_of_none _ unread,
          tagGaps.replace_cons_of_none _ found, tail, List.cons_append]

end Gaps

section Blocks

/-- Nothing, or a text between angle brackets. -/
def Bracketed (s : Text) : Prop := s = [] ∨ ∃ inner, s = ['<'] ++ inner ++ ['>']

namespace Bracketed

theorem append {s t : Text} (hs : Bracketed s) (ht : Bracketed t) : Bracketed (s ++ t) := by
  rcases hs with rfl | ⟨a, rfl⟩
  · exact ht
  · rcases ht with rfl | ⟨b, rfl⟩
    · exact .inr ⟨a, List.append_nil _⟩
    · exact .inr ⟨a ++ ['>', '<'] ++ b, by simp⟩

theorem flatMap {α : Type} {f : α → Text} {xs : List α} (all : ∀ x ∈ xs, Bracketed (f x)) :
    Bracketed (xs.flatMap f) := by
  induction xs with
  | nil => exact .inl rfl
  | cons x xs ih =>
    rw [List.flatMap_cons]
    exact (all x (by simp)).append (ih fun y member => all y (List.mem_cons_of_mem x member))

theorem endsSolid {s : Text} (h : Bracketed s) : EndsSolid s := by
  rcases h with rfl | ⟨inner, rfl⟩
  · intro c last
    cases last
  · intro c last
    rw [List.getLast?_concat] at last
    cases last
    decide

theorem stops {s : Text} (h : Bracketed s) : Stops isBlank s := by
  rcases h with rfl | ⟨inner, rfl⟩
  · exact Text.stops_nil _
  · exact stops_cons.mpr (by decide)

end Bracketed

theorem bracketed_element (name content : Text) : Bracketed (element name content) :=
  .inr ⟨name ++ ['>'] ++ content ++ ['<', '/'] ++ name, by simp [element]⟩

theorem bracketed_html (block : Block) : Bracketed block.html := by
  cases block with
  | table rows =>
    simp only [Block.html]
    cases rows.filter fun line => !isSeparatorRow line with
    | nil => exact .inl rfl
    | cons header rows => exact bracketed_element _ _
  | rule => exact .inr ⟨"hr /".toList, by decide⟩
  | code | quotation | list | heading | paragraph => exact bracketed_element _ _

end Blocks

namespace Converter

theorem reached_foldl_feed (lines : List Text) : Reached (lines.foldl feed start) := by
  have run := reached_run (lines.map .feed)
  rwa [Converter.run, List.foldl_map] at run

/-- A blank line outside a fence does what the end of a document does. -/
theorem Reached.feed_blank_eq_close {s : Converter} (h : Reached s) {line : Text}
    (blank : allBlank line = true) (outside : s.inFence = false) : s.feed line = s.close := by
  have unfenced := isFence_of_allBlank blank
  have class_ := classOf_of_allBlank blank
  have fresh (log : List Emission) : (Converter.idle log).feed line = Converter.idle log := by
    rw [feed_idle log unfenced, class_]
    rfl
  cases h with
  | @idle log logged => rw [fresh, close_idle]
  | @opened log first line₀ run logged =>
    have apart : inRun first line = false := by
      cases first <;> simp [inRun, class_, Line.continues]
    rw [feed_break log line₀ run apart, closeBlocks_opened, fresh, close_opened]
  | fenced logged => cases outside

/-- What is taken after the end of a document follows it as a document of its own. -/
theorem finish_foldl_close (first second : List Text) :
    (second.foldl feed (first.foldl feed start).close).finish =
      (first.foldl feed start).finish ++ (second.foldl feed start).finish := by
  have fresh : start = idle [] := rfl
  obtain ⟨written, closed, spells⟩ := close_foldl_idle first []
  have seam := closeGaps_append_of_solid
    (Bracketed.flatMap fun block (_ : block ∈ blocksOf first) => bracketed_html block).endsSolid
    (Bracketed.flatMap fun block (_ : block ∈ blocksOf second) => bracketed_html block).stops
  rw [fresh, closed, finish_foldl_idle, finish_foldl_idle, finish_foldl_idle, List.nil_append,
    spells, seam]
  rfl

/-! Whether a fence is open depends on the number of fence lines alone. -/

@[simp] theorem inFence_closeParagraph (s : Converter) : s.closeParagraph.inFence = s.inFence := by
  unfold closeParagraph
  split <;> rfl

@[simp] theorem inFence_closeList (s : Converter) : s.closeList.inFence = s.inFence := by
  unfold closeList
  split <;> rfl

@[simp] theorem inFence_closeQuotation (s : Converter) :
    s.closeQuotation.inFence = s.inFence := by
  unfold closeQuotation
  split <;> rfl

@[simp] theorem inFence_closeTable (s : Converter) : s.closeTable.inFence = s.inFence := by
  unfold closeTable
  split
  · cases s.header <;> rfl
  · rfl

@[simp] theorem inFence_closeBlocks (s : Converter) : s.closeBlocks.inFence = s.inFence := by
  simp [closeBlocks]

theorem inFence_addRow (s : Converter) (row : Text) : (s.addRow row).inFence = s.inFence := by
  have opened : s.openTable.inFence = s.inFence := by
    unfold openTable
    split
    · rfl
    · simp
  simp only [addRow]
  split
  · exact opened
  · split <;> exact opened

theorem inFence_addQuote (s : Converter) (rest : Text) :
    (s.addQuote rest).inFence = s.inFence := by
  simp only [addQuote, emit]
  split <;> simp

theorem inFence_addItem (s : Converter) (kind : ListKind) (rest : Text) :
    (s.addItem kind rest).inFence = s.inFence := by
  simp only [addItem, emit]
  split <;> simp

theorem inFence_addLine (s : Converter) (line : Text) : (s.addLine line).inFence = s.inFence := by
  unfold addLine
  cases Line.ofText line with
  | row => exact inFence_addRow s line
  | quote rest => simp [inFence_addQuote]
  | item kind rest => simp [inFence_addItem]
  | heading | rule => simp [emit]
  | blank | prose => simp

theorem inFence_feed (s : Converter) (line : Text) :
    (s.feed line).inFence = (s.inFence ^^ isFence line) := by
  cases fence : isFence line with
  | true => cases inside : s.inFence <;> simp [feed, fence, toggleFence, inside, emit]
  | false => cases inside : s.inFence <;> simp [feed, fence, inside, emit, inFence_addLine]

theorem inFence_foldl_feed (lines : List Text) (s : Converter) :
    (lines.foldl feed s).inFence = s.inFence ↔ Even (lines.countP isFence) := by
  induction lines generalizing s with
  | nil => simp
  | cons line lines ih =>
    rw [List.foldl_cons, List.countP_cons]
    have step := inFence_feed s line
    cases fence : isFence line with
    | true =>
      have toggled : (lines.foldl feed (s.feed line)).inFence = s.inFence ↔
          ¬ (lines.foldl feed (s.feed line)).inFence = (s.feed line).inFence := by
        rw [step, fence]
        cases (lines.foldl feed (s.feed line)).inFence <;> cases s.inFence <;> decide
      rw [toggled, ih, if_pos rfl, Nat.even_add_one]
    | false =>
      have kept : (s.feed line).inFence = s.inFence := by rw [step, fence, Bool.xor_false]
      rw [← kept, ih]
      simp

end Converter

theorem convert_eq_finish (s : Text) :
    convert s = (((lines s).map escape).foldl Converter.feed .start).finish := by
  rw [convert, lines_escape]

theorem countP_isFence_escape (lines : List Text) :
    (lines.map escape).countP isFence = lines.countP isFence := by
  rw [List.countP_map]
  exact List.countP_congr fun line _ => by simp [isFence_escape]

/-- Two documents with a blank line between them, or with the end of the first between them, are
converted as each is by itself. -/
theorem documents_compose :
    (∀ first second : List Text, ∀ line, allBlank line = true →
      (first.foldl Converter.feed .start).inFence = false →
        ((first ++ line :: second).foldl Converter.feed .start).finish =
          (first.foldl Converter.feed .start).finish ++
            (second.foldl Converter.feed .start).finish) ∧
    (∀ first second : List Text,
      (second.foldl Converter.feed (first.foldl Converter.feed .start).close).finish =
        (first.foldl Converter.feed .start).finish ++
          (second.foldl Converter.feed .start).finish) ∧
    ∀ a b : Text, a.getLast? ≠ some '\r' → Even ((lines a).countP isFence) →
      convert (a ++ ['\n', '\n'] ++ b) = convert a ++ convert b := by
  have parted : ∀ first second : List Text, ∀ line, allBlank line = true →
      (first.foldl Converter.feed .start).inFence = false →
        ((first ++ line :: second).foldl Converter.feed .start).finish =
          (first.foldl Converter.feed .start).finish ++
            (second.foldl Converter.feed .start).finish := by
    intro first second line blank outside
    have reached := Converter.reached_foldl_feed first
    rw [List.foldl_append, List.foldl_cons, reached.feed_blank_eq_close blank outside,
      Converter.finish_foldl_close]
  refine ⟨parted, Converter.finish_foldl_close, fun a b unreturned even => ?_⟩
  have pieces : lines (a ++ ['\n', '\n'] ++ b) = lines a ++ [] :: lines b := by
    have joined := lines_append_newline unreturned ('\n' :: b)
    rw [lines_newline] at joined
    simpa using joined
  have outside : (((lines a).map escape).foldl Converter.feed .start).inFence = false := by
    rw [← countP_isFence_escape] at even
    exact (Converter.inFence_foldl_feed _ .start).mpr even
  rw [convert_eq_finish, convert_eq_finish, convert_eq_finish, pieces, List.map_append,
    List.map_cons]
  exact parted _ _ [] rfl outside

/-- A list before a fence with a blank line of its own, and a quotation behind it. -/
theorem documents_compose_fenced :
    let first := ["- a".toList, "```".toList, [], "```".toList]
    let second := ["&gt; b".toList]
    let a := "- <a>\n```\n\nx\n```".toList
    let b := "> b".toList
    allBlank " \t".toList = true ∧ (first.foldl Converter.feed .start).inFence = false ∧
      ((first ++ " \t".toList :: second).foldl Converter.feed .start).finish =
        (first.foldl Converter.feed .start).finish ++
          (second.foldl Converter.feed .start).finish ∧
      a.getLast? ≠ some '\r' ∧ Even ((lines a).countP isFence) ∧
      convert (a ++ ['\n', '\n'] ++ b) =
        "<ul><li>&lt;a&gt;</li></ul><pre><code>\nx\n</code></pre>".toList ++
          "<blockquote>b </blockquote>".toList := by
  intro first second a b
  have blank : allBlank " \t".toList = true := by decide
  have outside : (first.foldl Converter.feed .start).inFence = false := by decide +kernel
  have unreturned : a.getLast? ≠ some '\r' := by decide
  have even : Even ((lines a).countP isFence) := by decide +kernel
  have parts : convert a ++ convert b =
      "<ul><li>&lt;a&gt;</li></ul><pre><code>\nx\n</code></pre>".toList ++
        "<blockquote>b </blockquote>".toList := by
    decide +kernel
  exact ⟨blank, outside, documents_compose.1 first second _ blank outside, unreturned, even,
    (documents_compose.2.2 a b unreturned even).trans parts⟩

end Folio.Markup
