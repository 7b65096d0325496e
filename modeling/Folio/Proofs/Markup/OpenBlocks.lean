import Folio.Proofs.Markup.Blocks
import Folio.Proofs.Markup.Nesting

/-! What is open in a converter, after any sequence of lines and of ends of documents. The lines are
arbitrary: nothing here depends on their being escaped. -/
namespace Folio.Markup

open Text (allBlank isBlank stripLeft dropPrefix?_eq_some)

/-- The names of a container's tags, the innermost first. -/
def Container.names : Container → List Text
  | .list kind => [kind.tag]
  | .quotation => ["blockquote".toList]
  | .code => ["code".toList, "pre".toList]

def Tag.html : Tag → Text
  | opens name => ['<'] ++ name ++ ['>']
  | closes name => ['<', '/'] ++ name ++ ['>']

/-- A part of what is written: a block tag, or content without block tags of the converter's own. -/
inductive Fragment
  | tag (t : Tag)
  | content (html : Text)

namespace Fragment

def html : Fragment → Text
  | tag t => t.html
  | content html => html

def tag? : Fragment → Option Tag
  | tag t => some t
  | content _ => none

def surround (name : Text) (inner : List Fragment) : List Fragment :=
  .tag (.opens name) :: (inner ++ [.tag (.closes name)])

def cells (name row : Text) : List Fragment :=
  (Markup.cells row).flatMap fun cell => surround name [.content (renderInline cell)]

def table (header : Text) (rows : List Text) : List Fragment :=
  surround "table".toList
    (surround "thead".toList (surround ['t', 'r'] (cells ['t', 'h'] header)) ++
      surround "tbody".toList (rows.flatMap fun row => surround ['t', 'r'] (cells ['t', 'd'] row)))

def tags (fragments : List Fragment) : List Tag := fragments.filterMap tag?

theorem html_surround (name : Text) (inner : List Fragment) :
    (surround name inner).flatMap html = element name (inner.flatMap html) := by
  simp [surround, element, html, Tag.html]

theorem html_cells (name row : Text) :
    (cells name row).flatMap html = Converter.cellsHtml name row := by
  simp only [cells, Converter.cellsHtml, List.flatMap_assoc, html_surround]
  simp [html]

theorem html_table (header : Text) (rows : List Text) :
    (table header rows).flatMap html = Converter.tableHtml header rows := by
  simp only [table, html_surround, List.flatMap_append, List.flatMap_assoc, html_cells]
  unfold Converter.tableHtml
  simp [element]

theorem tags_append (xs ys : List Fragment) : tags (xs ++ ys) = tags xs ++ tags ys :=
  List.filterMap_append

theorem tags_flatMap {α : Type} (f : α → List Fragment) (xs : List α) :
    tags (xs.flatMap f) = xs.flatMap fun x => tags (f x) :=
  List.filterMap_flatMap

theorem tags_surround (name : Text) (inner : List Fragment) :
    tags (surround name inner) = enclose name (tags inner) := by
  simp [tags, surround, enclose, tag?]

theorem nested_content (html : Text) : Nested (tags [.content html]) := .nil

theorem nested_surround (name : Text) {inner : List Fragment} (h : Nested (tags inner)) :
    Nested (tags (surround name inner)) := by
  rw [tags_surround]
  exact h.enclose name

theorem nested_cells (name row : Text) : Nested (tags (cells name row)) := by
  rw [cells, tags_flatMap]
  exact .flatMap fun cell _ => nested_surround name (nested_content _)

theorem nested_table (header : Text) (rows : List Text) : Nested (tags (table header rows)) := by
  have head := nested_surround ['t', 'r'] (nested_cells ['t', 'h'] header)
  have body :
      Nested (tags (rows.flatMap fun row => surround ['t', 'r'] (cells ['t', 'd'] row))) := by
    rw [tags_flatMap]
    exact .flatMap fun row _ => nested_surround ['t', 'r'] (nested_cells ['t', 'd'] row)
  refine nested_surround "table".toList ?_
  rw [tags_append]
  exact (nested_surround _ head).append (nested_surround _ body)

end Fragment

/-- An entry of the log, as one of the things that the converter writes at a time. -/
inductive Entry
  | opens (c : Container)
  | closes (c : Container)
  | paragraph (text : Text)
  | item (text : Text)
  | heading (level : Nat) (title : Text)
  | rule
  | table (header : Text) (rows : List Text)
  | quoted (text : Text)
  | verbatim (line : Text)

namespace Entry

open Fragment (surround)

def fragments : Entry → List Fragment
  | opens c => c.names.reverse.map fun name => .tag (.opens name)
  | closes c => c.names.map fun name => .tag (.closes name)
  | paragraph text => surround ['p'] [.content (renderInline text)]
  | item text => surround ['l', 'i'] [.content (renderInline text)]
  | heading level title => surround (Converter.headingTag level) [.content (renderInline title)]
  | rule => [.content ruleTag]
  | table header rows => Fragment.table header rows
  | quoted text => [.content (renderInline text ++ [' '])]
  | verbatim line => [.content (escapeKeeping line ++ ['\n'])]

def emission : Entry → Emission
  | opens c => .opens c
  | closes c => .closes c
  | entry => .body (entry.fragments.flatMap Fragment.html)

def tags (entry : Entry) : List Tag := Fragment.tags entry.fragments

theorem html_emission (entry : Entry) :
    entry.emission.html = entry.fragments.flatMap Fragment.html := by
  have container : ∀ c : Container,
      (opens c).emission.html = (opens c).fragments.flatMap Fragment.html ∧
        (closes c).emission.html = (closes c).fragments.flatMap Fragment.html := by
    rintro (⟨_ | _⟩ | _ | _) <;> decide +kernel
  cases entry with
  | opens c => exact (container c).1
  | closes c => exact (container c).2
  | _ => rfl

theorem openAfter_opens (c : Container) (stack : List Text) :
    openAfter stack (opens c).tags = some (c.names ++ stack) := by
  cases c <;> rfl

theorem openAfter_closes (c : Container) (stack : List Text) :
    openAfter (c.names ++ stack) (closes c).tags = some stack := by
  cases c with
  | list kind => cases kind <;> rfl
  | quotation => rfl
  | code => rfl

end Entry

/-- A log of entries whose block tags nest and leave the given ones open, the innermost first. -/
def Logged (log : List Emission) (stack : List Text) : Prop :=
  ∃ entries : List Entry, log = entries.map Entry.emission ∧
    log.flatMap Emission.html = (entries.flatMap Entry.fragments).flatMap Fragment.html ∧
    openAfter [] (entries.flatMap Entry.tags) = some stack

namespace Logged

variable {log : List Emission} {stack rest : List Text}

theorem nil : Logged [] [] := ⟨[], rfl, rfl, rfl⟩

theorem append (h : Logged log stack) (entries : List Entry)
    (reads : openAfter stack (entries.flatMap Entry.tags) = some rest) :
    Logged (log ++ entries.map Entry.emission) rest := by
  obtain ⟨before, rfl, written, opened⟩ := h
  refine ⟨before ++ entries, by simp, ?_, ?_⟩
  · have same : (entries.map Entry.emission).flatMap Emission.html =
        (entries.flatMap Entry.fragments).flatMap Fragment.html := by
      simp only [List.flatMap_map, List.flatMap_assoc, Entry.html_emission]
    rw [List.flatMap_append, written, same, List.flatMap_append, List.flatMap_append]
  · rw [List.flatMap_append]
    exact openAfter_append_some.mpr ⟨stack, opened, reads⟩

theorem opens (h : Logged log stack) (c : Container) :
    Logged (log ++ [.opens c]) (c.names ++ stack) := by
  refine h.append [.opens c] ?_
  simpa using Entry.openAfter_opens c stack

theorem closes {c : Container} (h : Logged log c.names) : Logged (log ++ [.closes c]) [] := by
  refine h.append [.closes c] ?_
  simpa using Entry.openAfter_closes c []

theorem complete {α : Type} (h : Logged log stack) (entry : α → Entry) (xs : List α)
    (nested : ∀ x ∈ xs, Nested (entry x).tags) :
    Logged (log ++ xs.map fun x => (entry x).emission) stack := by
  have all : Nested ((xs.map entry).flatMap Entry.tags) := by
    rw [List.flatMap_map]
    exact .flatMap nested
  have joined := h.append _ (all.openAfter_eq stack)
  rwa [List.map_map] at joined

theorem entry (h : Logged log stack) (e : Entry) (nested : Nested e.tags) :
    Logged (log ++ [e.emission]) stack :=
  h.complete (fun e => e) [e] (by simpa using nested)

end Logged

namespace Converter

def openContainers (s : Converter) : List Container :=
  (s.list.map Container.list).toList ++ (if s.inQuotation then [.quotation] else []) ++
    (if s.inFence then [.code] else [])

/-- The block tags that are to be closed when the open block ends, the innermost first. -/
def openTags (s : Converter) : List Text := s.openContainers.flatMap Container.names

def openCount (s : Converter) : Nat :=
  [!s.paragraph.isEmpty, s.list.isSome, s.inQuotation, s.inTable, s.inFence].count true

/-- At most one block is open, nothing is kept of a table that is not open, and no row before the
header; the log is nested but for the tags of the open block. -/
structure Orderly (s : Converter) : Prop where
  oneOpen : s.openCount ≤ 1
  tableClosed : s.inTable = false → s.header = none ∧ s.rows = []
  headerFirst : s.header = none → s.rows = []
  logged : Logged s.emitted.toList s.openTags

/-- No block is open, and the log is nested. -/
def Settled (s : Converter) : Prop := s.openCount = 0 ∧ Logged s.emitted.toList []

inductive Event
  | feed (line : Text)
  | finish

def after (s : Converter) : Event → Converter
  | .feed line => s.feed line
  | .finish => s.close

theorem settled_idle {log : List Emission} (h : Logged log []) : (idle log).Settled := ⟨rfl, h⟩

theorem orderly_idle {log : List Emission} (h : Logged log []) : (idle log).Orderly :=
  ⟨by simp [openCount, idle, start], fun _ => ⟨rfl, rfl⟩, fun _ => rfl, h⟩

theorem orderly_fenced {log : List Emission} (h : Logged log Container.code.names) :
    (fenced log).Orderly :=
  ⟨by simp [openCount, fenced, idle, start], fun _ => ⟨rfl, rfl⟩, fun _ => rfl, h⟩

theorem logged_heading {log : List Emission} (h : Logged log []) (level : Nat) (title : Text) :
    Logged (log ++ [.body (element (headingTag level) (renderInline title))]) [] := by
  have entry := h.entry (.heading level title)
    (Fragment.nested_surround _ (Fragment.nested_content _))
  simpa [Entry.emission, Entry.fragments, Fragment.html_surround, Fragment.html] using entry

theorem logged_rule {log : List Emission} (h : Logged log []) :
    Logged (log ++ [.body ruleTag]) [] := by
  simpa [Entry.emission, Entry.fragments, Fragment.html] using
    h.entry .rule (Fragment.nested_content _)

theorem logged_quotes {log : List Emission} (h : Logged log []) (run : List Text) :
    Logged (log ++ .opens .quotation :: run.map quoteEmission) Container.quotation.names := by
  have quotes := (h.opens .quotation).complete (fun line => .quoted (classOf line).rest)
    run fun _ _ => Fragment.nested_content _
  have same : (fun line => (Entry.quoted (classOf line).rest).emission) = quoteEmission := by
    funext line
    simp [Entry.emission, Entry.fragments, Fragment.html, quoteEmission]
  simpa [same] using quotes

theorem logged_items {log : List Emission} (h : Logged log []) (kind : ListKind)
    (run : List Text) :
    Logged (log ++ .opens (.list kind) :: run.map itemEmission) (Container.list kind).names := by
  have items := (h.opens (.list kind)).complete
    (fun line => .item (classOf line).rest) run
    fun _ _ => Fragment.nested_surround _ (Fragment.nested_content _)
  have same : (fun line => (Entry.item (classOf line).rest).emission) = itemEmission := by
    funext line
    simp [Entry.emission, Entry.fragments, Fragment.html_surround, Fragment.html, itemEmission]
  simpa [same] using items

theorem logged_verbatim {log : List Emission} {stack : List Text} (h : Logged log stack)
    (line : Text) : Logged (log ++ [codeEmission line]) stack := by
  simpa [Entry.emission, Entry.fragments, Fragment.html, codeEmission] using
    h.entry (.verbatim line) (Fragment.nested_content _)

theorem logged_closedLog {log : List Emission} (h : Logged log []) (first : Line)
    (run : List Text) : Logged (log ++ closedLog first run) [] := by
  cases first with
  | row =>
    simp only [closedLog]
    cases run.filter fun line => !isSeparatorRow line with
    | nil => simpa using h
    | cons header rows =>
      simpa [Entry.emission, Entry.fragments, Fragment.html_table] using
        h.entry (.table header rows) (Fragment.nested_table header rows)
  | quote rest =>
    have closed := (logged_quotes h run).closes
    simpa [closedLog] using closed
  | item kind rest =>
    have closed := (logged_items h kind run).closes
    simpa [closedLog] using closed
  | heading level title => exact logged_heading h level title
  | rule => exact logged_rule h
  | blank => simpa [closedLog] using h
  | prose =>
    have entry := h.entry (.paragraph (Text.join [' '] (run.map Text.strip)))
      (Fragment.nested_surround _ (Fragment.nested_content _))
    simpa [closedLog, Entry.emission, Entry.fragments, Fragment.html_surround, Fragment.html]
      using entry

theorem orderly_opened {log : List Emission} (h : Logged log []) (first : Line)
    (run : List Text) : (opened log first run).Orderly := by
  cases first with
  | row =>
    refine ⟨by simp [opened, openCount, idle, start], ?_, ?_, h⟩
    · intro closed
      cases closed
    · intro headless
      simp only [opened, List.head?_eq_none_iff] at headless
      simp [opened, headless]
  | quote rest =>
    exact ⟨by simp [opened, openCount, idle, start], fun _ => ⟨rfl, rfl⟩, fun _ => rfl,
      logged_quotes h run⟩
  | item kind rest =>
    exact ⟨by simp [opened, openCount, idle, start], fun _ => ⟨rfl, rfl⟩, fun _ => rfl,
      by simpa [opened, openTags, openContainers, idle, start] using logged_items h kind run⟩
  | heading level title => exact orderly_idle (logged_heading h level title)
  | rule => exact orderly_idle (logged_rule h)
  | blank => exact orderly_idle h
  | prose =>
    refine ⟨?_, fun _ => ⟨rfl, rfl⟩, fun _ => rfl, h⟩
    simp only [opened, openCount, idle, start]
    cases (run.map Text.strip).isEmpty <;> decide

/-- The states that a converter reaches: nothing open, the block of a run of lines open, or a
fence. -/
inductive Reached : Converter → Prop
  | idle {log : List Emission} : Logged log [] → Reached (idle log)
  | opened {log : List Emission} (first : Line) (line : Text) (run : List Text) :
      Logged log [] → Reached (opened log first (line :: run))
  | fenced {log : List Emission} : Logged log Container.code.names → Reached (fenced log)

theorem Reached.orderly {s : Converter} (h : Reached s) : s.Orderly := by
  cases h with
  | idle logged => exact orderly_idle logged
  | opened first line run logged => exact orderly_opened logged first (line :: run)
  | fenced logged => exact orderly_fenced logged

theorem reached_feed_idle {log : List Emission} (h : Logged log []) (line : Text) :
    Reached ((idle log).feed line) := by
  cases fence : isFence line with
  | true =>
    rw [feed_fence_idle log fence]
    exact .fenced (h.opens .code)
  | false =>
    rw [feed_idle log fence]
    exact .opened (classOf line) line [] h

theorem Reached.feed {s : Converter} (h : Reached s) (line : Text) : Reached (s.feed line) := by
  cases h with
  | idle logged => exact reached_feed_idle logged line
  | @opened log first line₀ run logged =>
    cases goesOn : inRun first line with
    | true =>
      rw [feed_inRun log (line₀ :: run) goesOn]
      exact .opened first line₀ (run ++ [line]) logged
    | false =>
      rw [feed_break log line₀ run goesOn, closeBlocks_opened]
      exact reached_feed_idle (logged_closedLog logged first (line₀ :: run)) line
  | @fenced log logged =>
    cases fence : isFence line with
    | true =>
      rw [feed_fence_fenced log fence]
      exact .idle (logged.closes)
    | false =>
      have step : (Converter.fenced log).feed line =
          Converter.fenced (log ++ [codeEmission line]) := by
        simp [Converter.feed, fence, Converter.fenced, Converter.idle, emit, codeEmission]
      rw [step]
      exact .fenced (logged_verbatim logged line)

theorem Reached.close_eq_idle {s : Converter} (h : Reached s) :
    ∃ log, Logged log [] ∧ s.close = Converter.idle log := by
  cases h with
  | @idle log logged =>
    exact ⟨log, logged, by simp [close, closeBlocks_idle, inFence_idle]⟩
  | @opened log first line run logged =>
    exact ⟨_, logged_closedLog logged first (line :: run),
      by simp [close, closeBlocks_opened, inFence_idle]⟩
  | @fenced log logged =>
    exact ⟨_, logged.closes,
      by simp [close, closeBlocks, Converter.fenced, Converter.idle, start, emit]⟩

theorem Reached.after {s : Converter} (h : Reached s) (event : Event) :
    Reached (s.after event) := by
  cases event with
  | feed line => exact h.feed line
  | finish =>
    obtain ⟨log, logged, same⟩ := h.close_eq_idle
    rw [Converter.after, same]
    exact .idle logged

def run (events : List Event) : Converter := events.foldl Converter.after start

theorem run_append_one (events : List Event) (event : Event) :
    run (events ++ [event]) = (run events).after event := by
  simp [run]

theorem reached_run (events : List Event) : Reached (run events) := by
  have step (s : Converter) (h : Reached s) : Reached (events.foldl Converter.after s) := by
    induction events generalizing s with
    | nil => exact h
    | cons event events ih => exact ih _ (h.after event)
  have fresh : Reached (idle []) := .idle Logged.nil
  exact step start fresh

/-! Blank lines -/

theorem not_mem_of_allBlank {line : Text} (blank : allBlank line = true) {c : Char}
    (solid : isBlank c = false) : c ∉ line := by
  intro member
  have other := List.all_eq_true.mp blank c member
  rw [solid] at other
  cases other

theorem mem_of_mem_dropFinalNewline {s : Text} {c : Char} (member : c ∈ dropFinalNewline s) :
    c ∈ s := by
  unfold dropFinalNewline at member
  split at member
  · rename_i rest shape
    exact List.mem_reverse.mp (shape ▸ List.mem_cons_of_mem '\n' (List.mem_reverse.mp member))
  · exact member

theorem rowInner?_of_allBlank {line : Text} (blank : allBlank line = true) :
    rowInner? line = none := by
  have bar : '|' ∉ dropFinalNewline line := by
    intro member
    exact not_mem_of_allBlank blank (by decide) (mem_of_mem_dropFinalNewline member)
  unfold rowInner?
  split
  · rename_i rest shape
    rw [shape] at bar
    exact absurd List.mem_cons_self bar
  · rfl

theorem dropPrefix?_of_allBlank {line mark : Text} (blank : allBlank line = true) {c : Char}
    (member : c ∈ mark) (solid : isBlank c = false) : Text.dropPrefix? mark line = none := by
  cases found : Text.dropPrefix? mark line with
  | none => rfl
  | some rest =>
    have inside : c ∈ line := by
      rw [dropPrefix?_eq_some.mp found]
      exact List.mem_append_left rest member
    exact absurd inside (not_mem_of_allBlank blank solid)

theorem stripLeft_of_allBlank {line : Text} (blank : allBlank line = true) :
    stripLeft line = [] :=
  List.dropWhile_eq_nil_iff.mpr fun c member => List.all_eq_true.mp blank c member

theorem heading?_of_allBlank {line : Text} (blank : allBlank line = true) :
    heading? line = none := by
  have hash : '#' ∉ line := not_mem_of_allBlank blank (by decide)
  have unread : Text.run? (· == '#') line = none := by
    cases found : Text.run? (· == '#') line with
    | none => rfl
    | some out =>
      obtain ⟨same, nonempty, marks, _⟩ := Text.run?_eq_some_iff.mp found
      obtain ⟨c, rest, split⟩ := List.exists_cons_of_ne_nil nonempty
      have mark : c = '#' := by simpa using marks c (by simp [split])
      exact absurd (by simp [same, split, mark]) hash
  simp [heading?, unread]

theorem isRule_of_allBlank {line : Text} (blank : allBlank line = true) : isRule line = false := by
  have dash : '-' ∉ dropFinalNewline line := by
    intro member
    exact not_mem_of_allBlank blank (by decide) (mem_of_mem_dropFinalNewline member)
  unfold isRule
  cases marks : dropFinalNewline line with
  | nil => rfl
  | cons c rest =>
    rw [marks] at dash
    have other : c ≠ '-' := fun same => dash (by simp [same])
    simp [other]

theorem isFence_of_allBlank {line : Text} (blank : allBlank line = true) :
    isFence line = false := by
  cases line with
  | nil => rfl
  | cons c rest =>
    have mark : backtick ∉ c :: rest := not_mem_of_allBlank blank (by decide)
    have other : backtick ≠ c := fun same => mark (by simp [same])
    simp [isFence, List.replicate_succ, List.isPrefixOf, other]

theorem classOf_of_allBlank {line : Text} (blank : allBlank line = true) :
    classOf line = .blank := by
  have quote : Text.dropPrefix? quoteMark line = none :=
    dropPrefix?_of_allBlank blank (c := '&') (by decide) (by decide)
  have bullet : bullet? line = none := by simp [bullet?, stripLeft_of_allBlank blank]
  have numbered : numbered? line = none := by
    simp [numbered?, stripLeft_of_allBlank blank, Text.run?]
  simp [classOf, lineRules, rowInner?_of_allBlank blank, quote, bullet, numbered,
    heading?_of_allBlank blank, isRule_of_allBlank blank, blank]

theorem Reached.settled_feed_blank {s : Converter} (h : Reached s) {line : Text}
    (blank : allBlank line = true) (outside : s.inFence = false) : (s.feed line).Settled := by
  have unfenced := isFence_of_allBlank blank
  have class_ := classOf_of_allBlank blank
  have fresh (log : List Emission) : (Converter.idle log).feed line = Converter.idle log := by
    rw [feed_idle log unfenced, class_]
    rfl
  cases h with
  | @idle log logged =>
    rw [fresh log]
    exact settled_idle logged
  | @opened log first line₀ run logged =>
    have apart : inRun first line = false := by
      cases first <;> simp [inRun, class_, Line.continues]
    rw [feed_break log line₀ run apart, closeBlocks_opened, fresh]
    exact settled_idle (logged_closedLog logged first (line₀ :: run))
  | fenced logged => cases outside

/-- Every sequence of lines and ends of documents leaves a converter orderly. The end of a document,
and a blank line outside a fence, leave nothing open. -/
theorem orderly_run (events : List Event) :
    (run events).Orderly ∧ (run (events ++ [.finish])).Settled ∧
      ∀ line, allBlank line = true → (run events).inFence = false →
        (run (events ++ [.feed line])).Settled := by
  have reached := reached_run events
  refine ⟨reached.orderly, ?_, ?_⟩
  · obtain ⟨log, logged, same⟩ := reached.close_eq_idle
    have closed : run (events ++ [.finish]) = Converter.idle log := by
      rw [run_append_one]
      exact same
    rw [closed]
    exact settled_idle logged
  · intro line blank outside
    rw [run_append_one]
    exact reached.settled_feed_blank blank outside

/-- A quotation, an end in the middle, a list that a fence interrupts, and a table. -/
theorem orderly_run_interrupted :
    let events : List Event := [.feed "&gt; a".toList, .finish, .feed "- b".toList,
      .feed "```".toList, .feed "c".toList, .feed "```".toList, .feed "| d |".toList]
    allBlank " \t".toList = true ∧ (run events).inFence = false ∧ (run events).Orderly ∧
      (run (events ++ [.finish])).Settled ∧
      (run (events ++ [.feed " \t".toList])).Settled := by
  intro events
  have blank : allBlank " \t".toList = true := by decide
  have outside : (run events).inFence = false := by decide +kernel
  have ordered := orderly_run events
  exact ⟨blank, outside, ordered.1, ordered.2.1, ordered.2.2 _ blank outside⟩

end Converter

end Folio.Markup
