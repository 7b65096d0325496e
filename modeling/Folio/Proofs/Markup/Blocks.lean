import Folio.Markup.Converter
import Folio.Proofs.Text.Splitting

/-! Marked-up lines as a sequence of blocks that are rendered one by one, and the agreement of the
line-by-line converter with it. -/
namespace Folio.Markup

open Text (allBlank dropPrefix? strip Stops)

/-- The rules for lines outside a fence, in the order in which they are tried. -/
def lineRules : List (Text → Option Line) :=
  [fun s => if (rowInner? s).isSome then some .row else none,
    fun s => (dropPrefix? quoteMark s).map .quote,
    fun s => (bullet? s).map (.item .unordered),
    fun s => (numbered? s).map (.item .ordered),
    fun s => (heading? s).map fun (level, title) => .heading level title,
    fun s => if isRule s then some .rule else none,
    fun s => if allBlank s then some .blank else none]

/-- The class of a line: that of the first rule which fits, or prose. -/
def classOf (s : Text) : Line := (lineRules.findSome? fun rule => rule s).getD .prose

theorem ofText_eq_classOf (s : Text) : Line.ofText s = classOf s := by
  unfold Line.ofText classOf lineRules
  cases hr : (rowInner? s).isSome with
  | true => simp [hr]
  | false =>
    cases hq : dropPrefix? quoteMark s with
    | some rest => simp [hr, hq]
    | none =>
      cases hb : bullet? s with
      | some rest => simp [hr, hq, hb]
      | none =>
        cases hn : numbered? s with
        | some rest => simp [hr, hq, hb, hn]
        | none =>
          cases hh : heading? s with
          | some found => simp [hr, hq, hb, hn, hh]
          | none =>
            cases hl : isRule s with
            | true => simp [hr, hq, hb, hn, hh, hl]
            | false => cases ha : allBlank s <;> simp [hr, hq, hb, hn, hh, hl, ha]

/-- Whether a line of the second class goes on with what a line of the first began. -/
def Line.continues : Line → Line → Bool
  | .row, .row => true
  | .quote _, .quote _ => true
  | .item kind _, .item other _ => kind = other
  | .prose, .prose => true
  | _, _ => false

def Line.rest : Line → Text
  | .quote rest => rest
  | .item _ rest => rest
  | _ => []

inductive Block
  | code (lines : List Text)
  | table (rows : List Text)
  | quotation (rests : List Text)
  | list (kind : ListKind) (rests : List Text)
  | heading (level : Nat) (title : Text)
  | rule
  | paragraph (lines : List Text)

def within (name : String) (content : Text) : Text := element name.toList content

def ruleTag : Text := "<hr />".toList

namespace Block

/-- The block of a run of lines whose first line has the given class; blank lines leave none. -/
def ofRun : Line → List Text → List Block
  | .row, run => [table run]
  | .quote _, run => [quotation (run.map fun line => (classOf line).rest)]
  | .item kind _, run => [list kind (run.map fun line => (classOf line).rest)]
  | .heading level title, _ => [heading level title]
  | .rule, _ => [rule]
  | .blank, _ => []
  | .prose, run => [paragraph run]

/-- Bars cut a row into pieces in one way only. Those that are not empty when they are trimmed are its
cells, from left to right. -/
theorem cells_eq_iff {line : Text} {found : List Text} : cells line = found ↔
    ∃ pieces, pieces ≠ [] ∧ (∀ piece ∈ pieces, '|' ∉ piece) ∧ line = Text.join ['|'] pieces ∧
      (pieces.map strip).filter (fun cell => !cell.isEmpty) = found := by
  constructor
  · rintro rfl
    refine ⟨Text.splitOn '|' line, Text.splitOn_ne_nil '|' line,
      fun _ => Text.not_mem_of_mem_splitOn, ?_, rfl⟩
    rw [Text.splitOn_eq_list]
    exact (List.intercalate_splitOn '|').symm
  · rintro ⟨pieces, nonempty, apart, rfl, rfl⟩
    rw [cells, Text.splitOn_eq_list, Text.join, List.splitOn_intercalate '|' apart nonempty]

def row (cell : String) (line : Text) : Text :=
  within "tr" ((cells line).flatMap fun content => within cell (renderInline content))

/-- The first row is the header; without one there is no table. -/
def tableOf : List Text → Text
  | [] => []
  | header :: rows =>
    within "table" <| within "thead" (row "th" header) ++
      within "tbody" (rows.flatMap fun line => row "td" line)

/-- Separator rows leave no trace in a table. -/
def html : Block → Text
  | code lines =>
    within "pre" <| within "code" <|
      lines.flatMap fun line => escapeKeeping line ++ ['\n']
  | table rows => tableOf (rows.filter fun line => !isSeparatorRow line)
  | quotation rests =>
    within "blockquote" (rests.flatMap fun rest => renderInline rest ++ [' '])
  | list kind rests =>
    element kind.tag (rests.flatMap fun rest => within "li" (renderInline rest))
  | heading level title => element (Converter.headingTag level) (renderInline title)
  | rule => ruleTag
  | paragraph lines => within "p" (renderInline (Text.join [' '] (lines.map strip)))

end Block

def inRun (first : Line) (line : Text) : Bool := !isFence line && first.continues (classOf line)

/-- A fence reaches to the next fence line or to the end; elsewhere a block is as long a run of
lines as its first line allows. -/
def blocksOf : List Text → List Block
  | [] => []
  | line :: lines =>
    if isFence line then
      .code (lines.takeWhile fun line => !isFence line) ::
        blocksOf (lines.dropWhile fun line => !isFence line).tail
    else
      let first := classOf line
      Block.ofRun first (line :: lines.takeWhile (inRun first)) ++
        blocksOf (lines.dropWhile (inRun first))
termination_by lines => lines.length
decreasing_by
  · have shorter := (List.dropWhile_sublist (l := lines) fun line => !isFence line).length_le
    simp only [List.length_tail, List.length_cons]
    omega
  · have shorter := (List.dropWhile_sublist (l := lines) (inRun (classOf line))).length_le
    simp only [List.length_cons]
    omega

namespace Converter

def idle (log : List Emission) : Converter := { start with emitted := log.toArray }

def fenced (log : List Emission) : Converter := { idle log with inFence := true }

def quoteEmission (line : Text) : Emission :=
  .body (renderInline (classOf line).rest ++ [' '])

def itemEmission (line : Text) : Emission :=
  .body (element ['l', 'i'] (renderInline (classOf line).rest))

/-- The state after a run of lines, its block still open if it has one. -/
def opened (log : List Emission) (first : Line) (run : List Text) : Converter :=
  match first with
  | .row =>
    let rows := run.filter fun line => !isSeparatorRow line
    { idle log with inTable := true, header := rows.head?, rows := rows.tail }
  | .quote _ =>
    { idle (log ++ .opens .quotation :: run.map quoteEmission) with inQuotation := true }
  | .item kind _ =>
    { idle (log ++ .opens (.list kind) :: run.map itemEmission) with list := some kind }
  | .heading level title =>
    idle (log ++ [.body (element (headingTag level) (renderInline title))])
  | .rule => idle (log ++ [.body ruleTag])
  | .blank => idle log
  | .prose => { idle log with paragraph := run.map strip }

/-- What a run has written once its block is closed. -/
def closedLog (first : Line) (run : List Text) : List Emission :=
  match first with
  | .row =>
    match run.filter fun line => !isSeparatorRow line with
    | [] => []
    | header :: rows => [.body (tableHtml header rows)]
  | .quote _ => .opens .quotation :: (run.map quoteEmission ++ [.closes .quotation])
  | .item kind _ => .opens (.list kind) :: (run.map itemEmission ++ [.closes (.list kind)])
  | .heading level title => [.body (element (headingTag level) (renderInline title))]
  | .rule => [.body ruleTag]
  | .blank => []
  | .prose => [.body (element ['p'] (renderInline (Text.join [' '] (run.map strip))))]

theorem closeBlocks_idle (log : List Emission) : (idle log).closeBlocks = idle log := by
  simp [closeBlocks, idle, start]

theorem inFence_idle (log : List Emission) : (idle log).inFence = false := rfl

theorem closeBlocks_opened (log : List Emission) (first : Line) (line : Text) (run : List Text) :
    (opened log first (line :: run)).closeBlocks = idle (log ++ closedLog first (line :: run)) := by
  cases first with
  | row =>
    simp only [opened, closedLog]
    cases (line :: run).filter fun line => !isSeparatorRow line <;>
      simp [closeBlocks, closeTable, idle, start, emit]
  | quote rest => simp [opened, closedLog, closeBlocks, closeQuotation, idle, start, emit]
  | item kind rest => simp [opened, closedLog, closeBlocks, closeList, idle, start, emit]
  | prose => simp [opened, closedLog, closeBlocks, closeParagraph, idle, start, emit]
  | heading level title => exact closeBlocks_idle _
  | rule => exact closeBlocks_idle _
  | blank => simpa [opened, closedLog] using closeBlocks_idle log

theorem feed_idle (log : List Emission) {line : Text} (unfenced : isFence line = false) :
    (idle log).feed line = opened log (classOf line) [line] := by
  have reading : (idle log).feed line = (idle log).addLine line := by
    simp [feed, unfenced, inFence_idle]
  rw [reading, addLine, ofText_eq_classOf]
  cases class_ : classOf line with
  | row => cases h : isSeparatorRow line <;> simp [opened, addRow, openTable, idle, start, h]
  | quote rest => simp [opened, addQuote, idle, start, emit, quoteEmission, class_, Line.rest]
  | item kind rest => simp [opened, addItem, idle, start, emit, itemEmission, class_, Line.rest]
  | heading level title => simp [opened, idle, start, emit]
  | rule =>
    have written : "<hr />".toList = ruleTag := rfl
    rw [written]
    simp [opened, idle, start, emit]
  | blank => simp [opened, closeBlocks, idle, start]
  | prose => simp [opened, idle, start]

theorem inFence_opened (log : List Emission) (first : Line) (run : List Text) :
    (opened log first run).inFence = false := by
  cases first <;> rfl

theorem feed_opened (log : List Emission) (first : Line) (run : List Text) {line : Text}
    (unfenced : isFence line = false) :
    (opened log first run).feed line = (opened log first run).addLine line := by
  simp [feed, unfenced, inFence_opened]

theorem feed_inRun (log : List Emission) {first : Line} (run : List Text) {line : Text}
    (goesOn : inRun first line = true) :
    (opened log first run).feed line = opened log first (run ++ [line]) := by
  simp only [inRun, Bool.and_eq_true, Bool.not_eq_true'] at goesOn
  obtain ⟨unfenced, continues⟩ := goesOn
  rw [feed_opened log first run unfenced, addLine, ofText_eq_classOf]
  cases first with
  | row =>
    cases class_ : classOf line with
    | row =>
      cases separator : isSeparatorRow line with
      | true => simp [opened, addRow, openTable, separator]
      | false =>
        cases rows : run.filter fun line => !isSeparatorRow line <;>
          simp [opened, addRow, openTable, separator, rows, idle, start]
    | _ => simp [class_, Line.continues] at continues
  | quote rest =>
    cases class_ : classOf line with
    | quote rest => simp [opened, addQuote, idle, start, emit, quoteEmission, class_, Line.rest]
    | _ => simp [class_, Line.continues] at continues
  | item kind rest =>
    cases class_ : classOf line with
    | item other rest =>
      have same : kind = other := by simpa [class_, Line.continues] using continues
      subst same
      simp [opened, addItem, idle, start, emit, itemEmission, class_, Line.rest]
    | _ => simp [class_, Line.continues] at continues
  | prose =>
    cases class_ : classOf line with
    | prose => simp [opened, idle, start]
    | _ => simp [class_, Line.continues] at continues
  | heading | rule | blank => simp [Line.continues] at continues

/-- A line that does not belong to the run closes the open block before it is read. -/
theorem feed_break (log : List Emission) {first : Line} (line₀ : Text) (run : List Text)
    {line : Text} (breaks : inRun first line = false) :
    (opened log first (line₀ :: run)).feed line =
      (opened log first (line₀ :: run)).closeBlocks.feed line := by
  cases fence : isFence line with
  | true =>
    have before := inFence_opened log first (line₀ :: run)
    rw [closeBlocks_opened]
    simp [feed, fence, toggleFence, before, closeBlocks_opened, closeBlocks_idle, inFence_idle]
  | false =>
    have apart : first.continues (classOf line) = false := by simpa [inRun, fence] using breaks
    have reading : (opened log first (line₀ :: run)).closeBlocks.feed line =
        (opened log first (line₀ :: run)).closeBlocks.addLine line := by
      rw [closeBlocks_opened]
      simp [feed, fence, inFence_idle]
    rw [feed_opened log first (line₀ :: run) fence, reading, addLine, addLine, ofText_eq_classOf]
    cases first with
    | row =>
      cases class_ : classOf line with
      | row => simp [class_, Line.continues] at apart
      | _ => simp [opened, closeBlocks, closeTable, idle, start]
    | quote rest =>
      cases class_ : classOf line with
      | quote rest => simp [class_, Line.continues] at apart
      | _ => simp [opened, closeBlocks, closeQuotation, idle, start, emit, addRow, openTable]
    | item kind rest =>
      cases class_ : classOf line with
      | item other rest =>
        have differ : kind ≠ other := by simpa [class_, Line.continues] using apart
        simp [opened, closeBlocks, closeList, idle, start, emit, addItem, differ]
      | _ => simp [opened, closeBlocks, closeList, idle, start, emit, addRow, openTable, addQuote]
    | prose =>
      cases class_ : classOf line with
      | prose => simp [class_, Line.continues] at apart
      | _ =>
        simp [opened, closeBlocks, closeParagraph, idle, start, emit, addRow, openTable, addQuote,
          addItem]
    | heading level title => simp only [opened, closeBlocks_idle]
    | rule => simp only [opened, closeBlocks_idle]
    | blank => simp only [opened, closeBlocks_idle]

theorem foldl_feed_inRun (log : List Emission) {first : Line} (run more : List Text)
    (goOn : ∀ line ∈ more, inRun first line = true) :
    more.foldl feed (opened log first run) = opened log first (run ++ more) := by
  induction more generalizing run with
  | nil => simp
  | cons line more ih =>
    rw [List.foldl_cons, feed_inRun log run (goOn line (by simp)),
      ih (run ++ [line]) fun l hl => goOn l (by simp [hl])]
    simp

theorem html_idle (log : List Emission) :
    (idle log).html = closeGaps (log.flatMap Emission.html) := by
  simp [html, idle]

theorem close_idle (log : List Emission) : (idle log).close = idle log := by
  simp [close, closeBlocks_idle, inFence_idle]

theorem close_opened (log : List Emission) (first : Line) (line : Text) (run : List Text) :
    (opened log first (line :: run)).close = idle (log ++ closedLog first (line :: run)) := by
  simp [close, closeBlocks_opened, inFence_idle]

theorem close_after_run (log : List Emission) {first : Line} (line₀ : Text) (run lines : List Text)
    (breaks : Stops (inRun first) lines) :
    (lines.foldl feed (opened log first (line₀ :: run))).close =
      (lines.foldl feed (idle (log ++ closedLog first (line₀ :: run)))).close := by
  cases lines with
  | nil => rw [List.foldl_nil, List.foldl_nil, close_opened, close_idle]
  | cons line lines =>
    rw [List.foldl_cons, feed_break log line₀ run (Text.stops_cons.mp breaks), closeBlocks_opened,
      List.foldl_cons]

theorem flatMap_closedLog (first : Line) (run : List Text) :
    (closedLog first run).flatMap Emission.html = (Block.ofRun first run).flatMap Block.html := by
  cases first with
  | row =>
    cases rows : run.filter fun line => !isSeparatorRow line with
    | nil => simp [closedLog, Block.ofRun, Block.html, Block.tableOf, rows]
    | cons header rows' =>
      have table : tableHtml header rows' = Block.tableOf (header :: rows') := by
        unfold tableHtml
        simp [Block.tableOf, cellsHtml, within, element, Block.row]
      simp [closedLog, Block.ofRun, Block.html, rows, table]
  | quote rest =>
    simp [closedLog, Block.ofRun, Block.html, within, element, List.flatMap_map, quoteEmission]
  | item kind rest =>
    simp [closedLog, Block.ofRun, Block.html, within, element, List.flatMap_map, itemEmission]
  | heading level title => simp [closedLog, Block.ofRun, Block.html]
  | rule => simp [closedLog, Block.ofRun, Block.html]
  | blank => rfl
  | prose => simp [closedLog, Block.ofRun, Block.html, within]

theorem feed_fence_idle (log : List Emission) {line : Text} (fence : isFence line = true) :
    (idle log).feed line = fenced (log ++ [.opens .code]) := by
  simp only [feed, fence, if_true, toggleFence, inFence_idle, closeBlocks_idle]
  simp [fenced, idle, emit]

theorem feed_fence_fenced (log : List Emission) {line : Text} (fence : isFence line = true) :
    (fenced log).feed line = idle (log ++ [.closes .code]) := by
  simp [feed, fence, toggleFence, fenced, idle, start, emit]

def codeEmission (line : Text) : Emission := .body (escapeKeeping line ++ ['\n'])

theorem foldl_feed_fenced (log : List Emission) (lines : List Text)
    (inside : ∀ line ∈ lines, isFence line = false) :
    lines.foldl feed (fenced log) = fenced (log ++ lines.map codeEmission) := by
  induction lines generalizing log with
  | nil => simp
  | cons line lines ih =>
    have step : (fenced log).feed line = fenced (log ++ [codeEmission line]) := by
      simp [feed, inside line (by simp), fenced, idle, emit, codeEmission]
    rw [List.foldl_cons, step, ih (log ++ [codeEmission line]) fun l hl => inside l (by simp [hl])]
    simp

theorem close_fenced (log : List Emission) :
    (fenced log).close = idle (log ++ [.closes .code]) := by
  simp [close, closeBlocks, fenced, idle, start, emit]

/-- The lines of a fence, up to the line that ends it or to the end of all. -/
theorem close_in_fence (log : List Emission) (lines : List Text) :
    (lines.foldl feed (fenced log)).close =
      ((lines.dropWhile fun line => !isFence line).tail.foldl feed
        (idle (log ++ (lines.takeWhile fun line => !isFence line).map codeEmission ++
          [.closes .code]))).close := by
  have inside : ∀ line ∈ lines.takeWhile fun line => !isFence line, isFence line = false := by
    intro line member
    simpa using List.mem_takeWhile_imp member
  have parts := List.takeWhile_append_dropWhile (p := fun line => !isFence line) (l := lines)
  conv_lhs => rw [← parts, List.foldl_append, foldl_feed_fenced log _ inside]
  cases after : lines.dropWhile fun line => !isFence line with
  | nil => rw [List.foldl_nil, close_fenced, List.tail_nil, List.foldl_nil, close_idle]
  | cons line others =>
    have stops := Text.stops_dropWhile (fun line => !isFence line) lines
    have fence : isFence line = true := by simpa [after, Stops] using stops
    rw [List.foldl_cons, feed_fence_fenced _ fence, List.tail_cons]

/-- From a state with nothing open, lines add entries to the log that spell their blocks. -/
theorem close_foldl_idle (lines : List Text) (log : List Emission) :
    ∃ written, (lines.foldl feed (idle log)).close = idle (log ++ written) ∧
      written.flatMap Emission.html = (blocksOf lines).flatMap Block.html := by
  induction lines using blocksOf.induct generalizing log with
  | case1 =>
    refine ⟨[], ?_, by rw [blocksOf]; rfl⟩
    rw [List.foldl_nil, close_idle, List.append_nil]
  | case2 line lines fence ih =>
    obtain ⟨written, closed, spells⟩ := ih (log ++ [.opens .code] ++
      (lines.takeWhile fun line => !isFence line).map codeEmission ++ [.closes .code])
    rw [List.foldl_cons, feed_fence_idle log fence, close_in_fence, closed, blocksOf, if_pos fence]
    refine ⟨.opens .code :: ((lines.takeWhile fun line => !isFence line).map codeEmission ++
      .closes .code :: written), by simp, ?_⟩
    simp [Block.html, within, element, List.flatMap_map, codeEmission, spells]
  | case3 line lines unfenced first ih =>
    have goOn : ∀ l ∈ lines.takeWhile (inRun first), inRun first l = true :=
      fun l member => List.mem_takeWhile_imp member
    have parts := List.takeWhile_append_dropWhile (p := inRun first) (l := lines)
    have start := feed_idle log (by simpa using unfenced)
    have run : (lines.foldl feed (opened log first [line])).close =
        ((lines.dropWhile (inRun first)).foldl feed (idle (log ++
          closedLog first (line :: lines.takeWhile (inRun first))))).close := by
      conv_lhs =>
        rw [← parts, List.foldl_append, foldl_feed_inRun log [line] _ goOn, List.singleton_append,
          close_after_run log line _ _ (Text.stops_dropWhile (inRun first) lines)]
    obtain ⟨written, closed, spells⟩ :=
      ih (log ++ closedLog first (line :: lines.takeWhile (inRun first)))
    rw [List.foldl_cons, start, run, closed, blocksOf, if_neg unfenced]
    refine ⟨_, congrArg idle (List.append_assoc _ _ _), ?_⟩
    rw [List.flatMap_append, List.flatMap_append, flatMap_closedLog, spells]

theorem finish_foldl_idle (lines : List Text) (log : List Emission) :
    (lines.foldl feed (idle log)).finish =
      closeGaps (log.flatMap Emission.html ++ (blocksOf lines).flatMap Block.html) := by
  obtain ⟨written, closed, spells⟩ := close_foldl_idle lines log
  rw [finish, closed, html_idle, List.flatMap_append, spells]

end Converter

/-- The document of a list of lines, block by block. -/
def renderBlocks (lines : List Text) : Text :=
  Converter.closeGaps ((blocksOf lines).flatMap Block.html)

/-- Reading line by line gives the blocks of all the lines. -/
theorem finish_foldl_feed (lines : List Text) :
    (lines.foldl Converter.feed .start).finish = renderBlocks lines := by
  have fresh := Converter.finish_foldl_idle lines []
  rw [List.flatMap_nil, List.nil_append] at fresh
  exact fresh

end Folio.Markup
