import Folio.Proofs.Markup.Documents
import Folio.Proofs.Markup.Tags
import Folio.Proofs.Markup.Unescaping

/-! Fenced documents: every line inside the fence comes out escaped once and otherwise as it is,
and a fence that is never closed ends with the document. -/
namespace Folio.Markup

open Text (Gap Stops allBlank isBlank)

def fenceMark : Text := List.replicate 3 backtick

theorem isFence_iff {s : Text} : isFence s = true ↔ fenceMark <+: s := List.isPrefixOf_iff_prefix

/-- A text that can be a line of a document: no line end is in it, and none can arise where it
meets the next line. -/
def IsLine (s : Text) : Prop := '\n' ∉ s ∧ s.getLast? ≠ some '\r'

instance (s : Text) : Decidable (IsLine s) := inferInstanceAs (Decidable (_ ∧ _))

theorem lines_of_not_mem {s : Text} (unended : '\n' ∉ s) : lines s = [s] := by
  induction s with
  | nil => rfl
  | cons c s ih =>
    have own : c ≠ '\n' := fun same => unended (by simp [same])
    have rest : '\n' ∉ s := fun member => unended (List.mem_cons_of_mem c member)
    refine lines_cons own ?_ (ih rest)
    rintro t - rfl
    exact rest (by simp)

/-- Lines that are joined are cut apart again. -/
theorem lines_join {pieces : List Text} (nonempty : pieces ≠ [])
    (each : ∀ piece ∈ pieces, IsLine piece) : lines (Text.join ['\n'] pieces) = pieces := by
  induction pieces with
  | nil => exact absurd rfl nonempty
  | cons piece pieces ih =>
    have own := each piece (by simp)
    cases pieces with
    | nil =>
      rw [Text.join_singleton]
      exact lines_of_not_mem own.1
    | cons next pieces =>
      have others := ih (List.cons_ne_nil _ _) fun p member =>
        each p (List.mem_cons_of_mem piece member)
      have parted := lines_append_newline own.2 (Text.join ['\n'] (next :: pieces))
      have joined : Text.join ['\n'] (piece :: next :: pieces) =
          piece ++ '\n' :: Text.join ['\n'] (next :: pieces) :=
        Text.join_cons_cons ['\n'] piece next pieces
      rw [joined, parted, others, lines_of_not_mem own.1]
      rfl

/-- A closing bracket stays as it is if no gap and no opening bracket follow it. -/
theorem closeGaps_greater_of_none {s : Text} (tight : ∀ w r, Gap w → s ≠ w ++ '<' :: r) :
    Converter.closeGaps ('>' :: s) = '>' :: Converter.closeGaps s := by
  apply Converter.tagGaps.replace_cons_of_none
  by_contra read
  obtain ⟨⟨u, r⟩, found⟩ := Option.ne_none_iff_exists'.mp read
  obtain ⟨w, gap, same⟩ := gaps_read.mp found
  exact tight w r gap (List.cons.inj same).2

theorem tight_of_stops {s : Text} (stops : Stops isBlank s) :
    ∀ w r, Gap w → s ≠ w ++ '<' :: r := by
  rintro w r ⟨nonempty, blank⟩ rfl
  obtain ⟨c, w, rfl⟩ := List.exists_cons_of_ne_nil nonempty
  have own : isBlank c = true := blank c (by simp)
  have other : isBlank c = false := Text.stops_cons.mp stops
  rw [own] at other
  cases other

theorem tight_of_visible {s t : Text} (visible : ∃ c ∈ s, isBlank c = false) (open_ : '<' ∉ s) :
    ∀ w r, Gap w → s ++ t ≠ w ++ '<' :: r := by
  rintro w r ⟨_, blank⟩ same
  obtain ⟨c, member, seen⟩ := visible
  -- the visible character stands before the bracket, where all is blank
  rcases List.append_eq_append_iff.mp same with ⟨rest, rfl, _⟩ | ⟨rest, rfl, split⟩
  · rw [blank c (List.mem_append_left rest member)] at seen
    cases seen
  · cases rest with
    | nil =>
      rw [List.append_nil] at member
      rw [blank c member] at seen
      cases seen
    | cons d rest =>
      obtain ⟨rfl, _⟩ := List.cons.inj split
      exact open_ (by simp)

/-- White space is left out only between brackets, so a visible code block stays whole. -/
theorem closeGaps_code {body : Text} (open_ : '<' ∉ body) (closed : '>' ∉ body)
    (visible : ∃ c ∈ body, isBlank c = false) :
    Converter.closeGaps ("<pre><code>".toList ++ body ++ "</code></pre>".toList) =
      "<pre><code>".toList ++ body ++ "</code></pre>".toList := by
  have ending : Converter.closeGaps "</code></pre>".toList = "</code></pre>".toList := by
    decide +kernel
  have inside : Converter.closeGaps ('>' :: (body ++ "</code></pre>".toList)) =
      '>' :: (body ++ "</code></pre>".toList) := by
    rw [closeGaps_greater_of_none (tight_of_visible visible open_), closeGaps_append closed, ending]
  have between : Converter.closeGaps
      ('>' :: ("<code".toList ++ '>' :: (body ++ "</code></pre>".toList))) =
      '>' :: ("<code".toList ++ '>' :: (body ++ "</code></pre>".toList)) := by
    have stops : Stops isBlank ("<code".toList ++ '>' :: (body ++ "</code></pre>".toList)) :=
      Text.stops_cons.mpr (by decide)
    rw [closeGaps_greater_of_none (tight_of_stops stops), closeGaps_append (by decide), inside]
  have whole : "<pre><code>".toList ++ body ++ "</code></pre>".toList =
      "<pre".toList ++ '>' :: ("<code".toList ++ '>' :: (body ++ "</code></pre>".toList)) := by
    simp
  rw [whole, closeGaps_append (by decide), between]

/-- The lines of a fence up to its end make one code block, and nothing is left behind them. -/
theorem blocksOf_fence {opening : Text} {code closing : List Text} (opens : isFence opening = true)
    (inside : ∀ line ∈ code, isFence line = false) (closes : closing = [] ∨ closing = [fenceMark]) :
    blocksOf (opening :: (code ++ closing)) = [.code code] := by
  have all : ∀ line ∈ code, (!isFence line) = true := by
    intro line member
    rw [inside line member]
    rfl
  have stops : Stops (fun line => !isFence line) closing := by
    rcases closes with rfl | rfl
    · exact Text.stops_nil _
    · exact Text.stops_cons.mpr (by decide)
  have rest : closing.tail = [] := by rcases closes with rfl | rfl <;> rfl
  rw [blocksOf, if_pos opens, Text.takeWhile_append_of_stops all stops,
    Text.dropWhile_append_of_stops all stops, rest, blocksOf]

/-- Each line of code escaped once, with a line feed behind it. -/
def codeBlock (code : List Text) : Text :=
  "<pre><code>".toList ++ code.flatMap (fun line => escape line ++ ['\n']) ++
    "</code></pre>".toList

theorem html_code_escape (code : List Text) :
    (Block.code (code.map escape)).html = codeBlock code := by
  unfold codeBlock
  have once : (fun line => escapeKeeping (escape line) ++ ['\n']) =
      fun line => escape line ++ ['\n'] :=
    funext fun line => by rw [escapeKeeping_of_marked (marked_escape line)]
  simp only [Block.html, List.flatMap_map, once]
  simp [within, element]

theorem convert_eq_blocks (s : Text) :
    convert s = Converter.closeGaps ((blocksOf ((lines s).map escape)).flatMap Block.html) := by
  have document := Converter.finish_foldl_idle ((lines s).map escape) []
  rw [List.flatMap_nil, List.nil_append] at document
  exact (convert_eq_finish s).trans document

theorem visible_escape {s : Text} {c : Char} (member : c ∈ s) (visible : isBlank c = false) :
    ∃ d ∈ escape s, isBlank d = false := by
  have inside {d : Char} (own : d ∈ escapeChar c) : d ∈ escape s :=
    List.mem_flatMap.mpr ⟨c, member, own⟩
  rcases escapeChar_cases c with entity | ⟨_, self⟩
  · have begins : ∀ meaning ∈ entityMeanings, '&' ∈ meaning.1 := by decide
    exact ⟨'&', inside (begins _ entity), by decide⟩
  · exact ⟨c, inside (by simp [self]), visible⟩

theorem closeGaps_codeBlock {code : List Text}
    (visible : ∃ line ∈ code, ∃ c ∈ line, isBlank c = false) :
    Converter.closeGaps (codeBlock code) = codeBlock code := by
  have escaped : ∀ c ∈ code.flatMap (fun line => escape line ++ ['\n']), c ≠ '<' ∧ c ≠ '>' := by
    intro c member
    obtain ⟨line, _, own⟩ := List.mem_flatMap.mp member
    have marked := (marked_escape line).escaped
    rcases List.mem_append.mp own with own | own
    · exact ⟨fun less => marked.1 (less ▸ own), fun greater => marked.2.1 (greater ▸ own)⟩
    · rw [List.mem_singleton.mp own]
      decide
  obtain ⟨line, member, c, own, seen⟩ := visible
  obtain ⟨d, shown, seen⟩ := visible_escape own seen
  have out : d ∈ code.flatMap fun line => escape line ++ ['\n'] :=
    List.mem_flatMap.mpr ⟨line, member, List.mem_append_left _ shown⟩
  exact closeGaps_code (fun less => (escaped '<' less).1 rfl)
    (fun greater => (escaped '>' greater).2 rfl) ⟨d, out, seen⟩

theorem isLine_fence {info : Text} (h : IsLine info) : IsLine (fenceMark ++ info) := by
  constructor
  · intro member
    rcases List.mem_append.mp member with own | own
    · exact absurd own (by decide)
    · exact h.1 own
  · intro last
    rw [List.getLast?_append] at last
    cases ending : info.getLast? with
    | none =>
      rw [ending] at last
      exact absurd last (by decide)
    | some c =>
      rw [ending] at last
      exact h.2 (ending.trans last)

theorem lines_fenced {info : Text} {code closing : List Text} (labelled : IsLine info)
    (each : ∀ line ∈ code, IsLine line) (closes : closing = [] ∨ closing = [fenceMark]) :
    lines (Text.join ['\n'] ((fenceMark ++ info) :: (code ++ closing))) =
      (fenceMark ++ info) :: (code ++ closing) := by
  apply lines_join (List.cons_ne_nil _ _)
  intro line member
  rcases List.mem_cons.mp member with rfl | member
  · exact isLine_fence labelled
  · rcases List.mem_append.mp member with own | own
    · exact each line own
    · rcases closes with rfl | rfl
      · cases own
      · rw [List.mem_singleton.mp own]
        decide

/-- A fenced document becomes the block of its code, whether the fence is closed or not. -/
theorem convert_fenced {info : Text} {code : List Text} (labelled : IsLine info)
    (each : ∀ line ∈ code, IsLine line ∧ ¬ fenceMark <+: line)
    (visible : ∃ line ∈ code, ∃ c ∈ line, isBlank c = false) :
    convert (Text.join ['\n'] ((fenceMark ++ info) :: code)) = codeBlock code ∧
      convert (Text.join ['\n'] ((fenceMark ++ info) :: (code ++ [fenceMark]))) =
        codeBlock code := by
  have opens : isFence (escape (fenceMark ++ info)) = true := by
    rw [isFence_escape]
    exact isFence_iff.mpr (List.prefix_append fenceMark info)
  have inside : ∀ line ∈ code.map escape, isFence line = false := by
    intro line member
    obtain ⟨source, own, rfl⟩ := List.mem_map.mp member
    rw [isFence_escape]
    exact Bool.eq_false_iff.mpr fun fence => (each source own).2 (isFence_iff.mp fence)
  have document : ∀ closing : List Text, closing = [] ∨ closing = [fenceMark] →
      convert (Text.join ['\n'] ((fenceMark ++ info) :: (code ++ closing))) = codeBlock code := by
    intro closing closes
    have kept : closing.map escape = closing := by rcases closes with rfl | rfl <;> rfl
    have cut := lines_fenced labelled (fun line member => (each line member).1) closes
    rw [convert_eq_blocks, cut, List.map_cons, List.map_append, kept,
      blocksOf_fence opens inside closes, List.flatMap_singleton, html_code_escape]
    exact closeGaps_codeBlock visible
  have unclosed := document [] (.inl rfl)
  rw [List.append_nil] at unclosed
  exact ⟨unclosed, document [fenceMark] (.inr rfl)⟩

/-- Blank and indented lines, entities, a table row, a bullet and a quotation inside a fence. -/
theorem convert_fenced_awkward :
    let info := "python <x>".toList
    let code := [[], "  a && b &amp; <c>".toList, "| *x* | y |".toList, "- `z`".toList,
      "> \r q".toList, " \t".toList]
    IsLine info ∧ (∀ line ∈ code, IsLine line ∧ ¬ fenceMark <+: line) ∧
      (∃ line ∈ code, ∃ c ∈ line, isBlank c = false) ∧
      convert (Text.join ['\n'] ((fenceMark ++ info) :: code)) =
        ("<pre><code>\n  a &amp;&amp; b &amp;amp; &lt;c&gt;\n| *x* | y |\n".toList ++
          "- `z`\n&gt; \r q\n \t\n</code></pre>".toList) ∧
      convert (Text.join ['\n'] ((fenceMark ++ info) :: (code ++ [fenceMark]))) =
        convert (Text.join ['\n'] ((fenceMark ++ info) :: code)) := by
  intro info code
  have labelled : IsLine info := by decide
  have each : ∀ line ∈ code, IsLine line ∧ ¬ fenceMark <+: line := by
    simp only [code, List.forall_mem_cons]
    decide
  have visible : ∃ line ∈ code, ∃ c ∈ line, isBlank c = false :=
    ⟨"- `z`".toList, by simp [code], '-', by decide, by decide⟩
  obtain ⟨unclosed, closed⟩ := convert_fenced labelled each visible
  refine ⟨labelled, each, visible, unclosed.trans ?_, closed.trans unclosed.symm⟩
  decide +kernel

end Folio.Markup
