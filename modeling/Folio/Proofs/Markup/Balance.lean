import Folio.Proofs.Markup.Emphasis

/-! How the tags of a converted text nest. Blocks, code spans and links are always nested; a pair of
emphasis is not where a link takes only half of it. -/
namespace Folio.Markup

open Text (Piece strip)

/-- Tags that consist of the given parts, in order, with pairs of tags around and between them. -/
inductive Surrounds : List (List Tag) → List Tag → Prop
  | nil : Surrounds [] []
  | leaf (tags : List Tag) : Surrounds [tags] tags
  | append {parts more : List (List Tag)} {tags others : List Tag} : Surrounds parts tags →
      Surrounds more others → Surrounds (parts ++ more) (tags ++ others)
  | enclose {parts : List (List Tag)} {tags : List Tag} (name : Text) : Surrounds parts tags →
      Surrounds parts (enclose name tags)

namespace Surrounds

variable {parts : List (List Tag)} {tags : List Tag}

theorem flatMap {α : Type} {f : α → List (List Tag)} {g : α → List Tag} {xs : List α}
    (all : ∀ x ∈ xs, Surrounds (f x) (g x)) : Surrounds (xs.flatMap f) (xs.flatMap g) := by
  induction xs with
  | nil => exact .nil
  | cons x xs ih =>
    exact (all x (by simp)).append (ih fun y member => all y (List.mem_cons_of_mem x member))

theorem nested_filter (h : Surrounds parts tags) (keep : Text → Bool)
    (nested : ∀ part ∈ parts, Nested (part.filter fun tag => keep tag.name)) :
    Nested (tags.filter fun tag => keep tag.name) := by
  induction h with
  | nil => exact .nil
  | leaf tags => exact nested tags (by simp)
  | append _ _ first second =>
    rw [List.forall_mem_append] at nested
    rw [List.filter_append]
    exact (first nested.1).append (second nested.2)
  | @enclose parts tags name _ ih =>
    have inside := ih nested
    cases kept : keep name with
    | true =>
      rw [filter_enclose keep kept]
      exact inside.enclose name
    | false =>
      have same : (Markup.enclose name tags).filter (fun tag => keep tag.name) =
          tags.filter fun tag => keep tag.name := by
        simp [Markup.enclose, Tag.name, kept]
      rw [same]
      exact inside

theorem nested (h : Surrounds parts tags) (all : ∀ part ∈ parts, Nested part) : Nested tags := by
  simpa using h.nested_filter (fun _ => true) (by simpa using all)

theorem infix_of_mem (h : Surrounds parts tags) {part : List Tag} (member : part ∈ parts) :
    part <:+: tags := by
  induction h with
  | nil => cases member
  | leaf tags => exact List.mem_singleton.mp member ▸ List.infix_refl part
  | @append _ _ tags others _ _ first second =>
    rcases List.mem_append.mp member with member | member
    · exact (first member).trans (List.prefix_append tags others).isInfix
    · exact (second member).trans (List.suffix_append tags others).isInfix
  | @enclose _ tags name _ ih =>
    exact (ih member).trans ⟨[.opens name], [.closes name], rfl⟩

end Surrounds

/-! Inline text -/

/-- The texts between the code spans. -/
def plainParts (t : Text) : List Text :=
  (codeSpans.cut t).flatMap fun
    | .plain s => [s]
    | .found _ => []

def inlineLinks (t : Text) : List Link := (plainParts t).flatMap linksIn

theorem marked_plainParts {t : Text} (h : Marked [] t) : ∀ s ∈ plainParts t, Marked [] s := by
  intro s member
  obtain ⟨piece, inside, found⟩ := List.mem_flatMap.mp member
  cases piece with
  | plain u =>
    obtain rfl := List.mem_singleton.mp found
    exact marked_codePieces h (.plain s) inside
  | found code => cases found

theorem surrounds_renderInline {t : Text} (h : Marked [] t) :
    Surrounds ((plainParts t).map fun s => tagsOf (renderPlain s)) (tagsOf (renderInline t)) := by
  have pieces := marked_codePieces h
  have span {code : Text} (inside : Marked [] code) :
      "<code>".toList ++ escapeKeeping code ++ "</code>".toList = within "code" code := by
    rw [escapeKeeping_of_marked inside]
    simp [within, element]
  rw [renderInline, tagsOf_flatMap, plainParts, List.map_flatMap]
  · apply Surrounds.flatMap
    intro piece member
    cases piece with
    | plain s => exact .leaf _
    | found code =>
      have inside : Marked [] code := pieces (.found code) member
      simp only [span inside, within,
        tagsOf_element (show "code" ∈ elementNames by decide) (inside.mono (by simp)),
        tagsOf_escaped inside]
      exact .enclose _ .nil
  · intro piece member
    cases piece with
    | plain s => exact marked_renderPlain (pieces (.plain s) member)
    | found code =>
      have inside : Marked [] code := pieces (.found code) member
      simp only [span inside]
      exact marked_within (by decide) (inside.mono (by simp))

section Inline

variable {t : Text}

theorem isEmphasis_of_mem_inlineLinks (h : Marked [] t) {link : Link}
    (member : link ∈ inlineLinks t) :
    ∀ tag ∈ tagsOf (link.url ++ link.label), isEmphasis tag.name = true := by
  obtain ⟨s, plain, found⟩ := List.mem_flatMap.mp member
  exact isEmphasis_of_mem_linksIn (marked_plainParts h s plain) found

theorem nested_renderInline (h : Marked [] t)
    (inside : ∀ link ∈ inlineLinks t, Nested (tagsOf (link.url ++ link.label))) :
    Nested (tagsOf (renderInline t)) := by
  apply (surrounds_renderInline h).nested
  intro part member
  obtain ⟨s, plain, rfl⟩ := List.mem_map.mp member
  exact nested_renderPlain (marked_plainParts h s plain) fun link found =>
    inside link (List.mem_flatMap.mpr ⟨s, plain, found⟩)

theorem link_infix_renderInline (h : Marked [] t) {link : Link} (member : link ∈ inlineLinks t) :
    enclose ['a'] (tagsOf (link.url ++ link.label)) <:+: tagsOf (renderInline t) := by
  obtain ⟨s, plain, found⟩ := List.mem_flatMap.mp member
  exact (link_infix_renderPlain (marked_plainParts h s plain) found).trans
    ((surrounds_renderInline h).infix_of_mem (List.mem_map_of_mem plain))

theorem nested_filter_renderInline (h : Marked [] t) :
    Nested ((tagsOf (renderInline t)).filter fun tag => !isEmphasis tag.name) := by
  apply (surrounds_renderInline h).nested_filter (fun name => !isEmphasis name)
  intro part member
  obtain ⟨s, plain, rfl⟩ := List.mem_map.mp member
  have marked := marked_plainParts h s plain
  have dropped {u : Text} (only : Marked emphasisTags u) :
      (tagsOf u).filter (fun tag => !isEmphasis tag.name) = [] := by
    rw [List.filter_eq_nil_iff]
    intro tag inside
    simp [isEmphasis_of_mem_tagsOf only tag inside]
  rw [tagsOf_renderPlain marked, List.filter_flatMap]
  apply Nested.flatMap
  intro piece inside
  have holds := marked_linkPieces marked piece inside
  cases piece with
  | plain u =>
    rw [writtenTags, dropped holds]
    exact .nil
  | found link =>
    have both := dropped (holds.2.append holds.1)
    rw [tagsOf_append_emphasis holds.2] at both
    rw [writtenTags, filter_enclose (fun name => !isEmphasis name) (by decide), both]
    exact Nested.nil.enclose ['a']

end Inline

/-! Blocks -/

/-- The texts of a block in which inline markup is looked for. -/
def Block.inlines : Block → List Text
  | code _ => []
  | table rows => (rows.filter fun line => !isSeparatorRow line).flatMap cells
  | quotation rests => rests
  | list _ rests => rests
  | heading _ title => [title]
  | rule => []
  | paragraph lines => [Text.join [' '] (lines.map strip)]

/-- Escaped text in a block whose heading, if it is one, has one of the six levels. -/
def Block.Sound : Block → Prop
  | code lines => ∀ line ∈ lines, Marked [] line
  | heading level title => 1 ≤ level ∧ level ≤ 6 ∧ Marked [] title
  | block => ∀ t ∈ block.inlines, Marked [] t

/-- A text with the given inline texts in it, in order. -/
structure Rendered (inlines : List Text) (html : Text) : Prop where
  marked : Marked ownTags html
  surrounds : Surrounds (inlines.map fun t => tagsOf (renderInline t)) (tagsOf html)

namespace Rendered

theorem escaped {s : Text} (h : Marked [] s) : Rendered [] s := by
  refine ⟨h.mono (by simp), ?_⟩
  rw [tagsOf_escaped h]
  exact .nil

theorem inline {t : Text} (h : Marked [] t) : Rendered [t] (renderInline t) :=
  ⟨marked_renderInline h, .leaf _⟩

theorem append {ts us : List Text} {s u : Text} (first : Rendered ts s) (second : Rendered us u) :
    Rendered (ts ++ us) (s ++ u) := by
  refine ⟨first.marked.append second.marked, ?_⟩
  rw [tagsOf_append first.marked, List.map_append]
  exact first.surrounds.append second.surrounds

theorem flatMap {α : Type} {f : α → List Text} {g : α → Text} {xs : List α}
    (all : ∀ x ∈ xs, Rendered (f x) (g x)) : Rendered (xs.flatMap f) (xs.flatMap g) := by
  induction xs with
  | nil => exact .escaped .nil
  | cons x xs ih =>
    exact (all x (by simp)).append (ih fun y member => all y (List.mem_cons_of_mem x member))

theorem within {ts : List Text} {content : Text} {name : String} (member : name ∈ elementNames)
    (h : Rendered ts content) : Rendered ts (within name content) := by
  refine ⟨marked_within member h.marked, ?_⟩
  rw [Markup.within, tagsOf_element member h.marked]
  exact .enclose _ h.surrounds

theorem each {name : String} (member : name ∈ elementNames) {ts : List Text}
    (h : ∀ t ∈ ts, Marked [] t) :
    Rendered ts (ts.flatMap fun t => Markup.within name (renderInline t)) := by
  have items : Rendered (ts.flatMap fun t => [t]) _ :=
    .flatMap fun t inside => (inline (h t inside)).within member
  simpa using items

end Rendered

theorem rendered_row {cell : String} (member : cell ∈ elementNames) {line : Text}
    (h : ∀ content ∈ cells line, Marked [] content) :
    Rendered (cells line) (Block.row cell line) :=
  (Rendered.each member h).within (by decide)

theorem rendered_tableOf {rows : List Text}
    (h : ∀ line ∈ rows, ∀ content ∈ cells line, Marked [] content) :
    Rendered (rows.flatMap cells) (Block.tableOf rows) := by
  cases rows with
  | nil => exact .escaped .nil
  | cons header rows =>
    have head := rendered_row (show "th" ∈ elementNames by decide) (h header (by simp))
    have body : Rendered (rows.flatMap cells) (rows.flatMap fun line => Block.row "td" line) :=
      .flatMap fun line member =>
        rendered_row (by decide) (h line (List.mem_cons_of_mem _ member))
    exact ((head.within (by decide)).append (body.within (by decide))).within (by decide)

theorem headingTag_eq {level : Nat} (low : 1 ≤ level) (high : level ≤ 6) :
    ∃ name ∈ elementNames, Converter.headingTag level = name.toList := by
  interval_cases level
  · exact ⟨"h1", by decide, rfl⟩
  · exact ⟨"h2", by decide, rfl⟩
  · exact ⟨"h3", by decide, rfl⟩
  · exact ⟨"h4", by decide, rfl⟩
  · exact ⟨"h5", by decide, rfl⟩
  · exact ⟨"h6", by decide, rfl⟩

theorem listTag_eq (kind : ListKind) : ∃ name ∈ elementNames, kind.tag = name.toList := by
  cases kind with
  | unordered => exact ⟨"ul", by decide, rfl⟩
  | ordered => exact ⟨"ol", by decide, rfl⟩

theorem rendered_html {block : Block} (sound : block.Sound) :
    Rendered block.inlines block.html := by
  cases block with
  | code lines =>
    refine (Rendered.within (by decide) (Rendered.within (by decide) (.escaped ?_)))
    apply Marked.flatMap
    intro line member
    have inside : Marked [] line := sound line member
    rw [escapeKeeping_of_marked inside]
    exact inside.append (.char (by decide) (by decide) (by decide) .nil)
  | table rows =>
    refine rendered_tableOf fun line member content inside => ?_
    exact sound content (List.mem_flatMap.mpr ⟨line, member, inside⟩)
  | quotation rests =>
    have space : Marked [] [' '] := .char (by decide) (by decide) (by decide) .nil
    have lines : Rendered (rests.flatMap fun t => [t] ++ [])
        (rests.flatMap fun t => renderInline t ++ [' ']) :=
      .flatMap fun t member => (Rendered.inline (sound t member)).append (.escaped space)
    simp only [List.append_nil, List.flatMap_singleton'] at lines
    exact lines.within (by decide)
  | list kind rests =>
    obtain ⟨name, member, same⟩ := listTag_eq kind
    simp only [Block.html, same]
    exact (Rendered.each (by decide) sound).within member
  | heading level title =>
    obtain ⟨low, high, marked⟩ := sound
    obtain ⟨name, member, same⟩ := headingTag_eq low high
    simp only [Block.html, same]
    exact (Rendered.inline marked).within member
  | rule =>
    refine ⟨.single (by decide +kernel), ?_⟩
    have tagless : tagsOf (Block.rule).html = [] := by decide +kernel
    rw [tagless]
    exact .nil
  | paragraph lines =>
    exact (Rendered.inline (sound _ (by simp [Block.inlines]))).within (by decide)

theorem sound_ofRun {first : Line} (class_ : first.Sound) {run : List Text}
    (h : ∀ line ∈ run, Marked [] line) : ∀ block ∈ Block.ofRun first run, block.Sound := by
  have rests : ∀ t ∈ run.map fun line => (classOf line).rest, Marked [] t := by
    intro t member
    obtain ⟨line, inside, rfl⟩ := List.mem_map.mp member
    have own := sound_classOf (h line inside)
    cases kind : classOf line with
    | quote rest => rwa [kind] at own
    | item kind rest => rwa [kind] at own
    | _ => exact .nil
  intro block member
  cases first with
  | row =>
    obtain rfl := List.mem_singleton.mp member
    intro content inside
    obtain ⟨line, kept, cell⟩ := List.mem_flatMap.mp inside
    exact marked_cells (h line (List.mem_filter.mp kept).1) content cell
  | quote rest =>
    obtain rfl := List.mem_singleton.mp member
    exact rests
  | item kind rest =>
    obtain rfl := List.mem_singleton.mp member
    exact rests
  | heading level title =>
    obtain rfl := List.mem_singleton.mp member
    exact class_
  | rule =>
    obtain rfl := List.mem_singleton.mp member
    intro t inside
    cases inside
  | blank => cases member
  | prose =>
    obtain rfl := List.mem_singleton.mp member
    intro t inside
    obtain rfl := List.mem_singleton.mp inside
    apply marked_join
    intro piece member
    obtain ⟨line, inside, rfl⟩ := List.mem_map.mp member
    exact (h line inside).strip

theorem sound_blocksOf {lines : List Text} (h : ∀ line ∈ lines, Marked [] line) :
    ∀ block ∈ blocksOf lines, block.Sound := by
  induction lines using blocksOf.induct with
  | case1 =>
    rw [blocksOf]
    simp
  | case2 line lines fence ih =>
    rw [blocksOf, if_pos fence, List.forall_mem_cons]
    refine ⟨?_, ih ?_⟩
    · intro l member
      exact h l (List.mem_cons_of_mem _ ((List.takeWhile_sublist _).mem member))
    · intro l member
      exact h l (List.mem_cons_of_mem _
        ((List.dropWhile_sublist _).mem (List.mem_of_mem_tail member)))
  | case3 line lines unfenced first ih =>
    rw [blocksOf, if_neg unfenced, List.forall_mem_append]
    refine ⟨sound_ofRun (sound_classOf (h line (by simp))) ?_, ih ?_⟩
    · intro l member
      rcases List.mem_cons.mp member with rfl | member
      · exact h l (by simp)
      · exact h l (List.mem_cons_of_mem _ ((List.takeWhile_sublist _).mem member))
    · intro l member
      exact h l (List.mem_cons_of_mem _ ((List.dropWhile_sublist _).mem member))

/-! Documents -/

/-- The texts of a document in which inline markup is looked for. -/
def inlinesOf (text : Text) : List Text := (blocksOf (lines (escape text))).flatMap Block.inlines

/-- The links of a document, with the emphasis in their labels and addresses expanded. -/
def linksOf (text : Text) : List Link := (inlinesOf text).flatMap inlineLinks

theorem rendered_document (text : Text) :
    Rendered (inlinesOf text) ((blocksOf (lines (escape text))).flatMap Block.html) :=
  .flatMap fun block member =>
    rendered_html (sound_blocksOf (marked_lines (marked_escape text)) block member)

theorem tagsOf_convert (text : Text) :
    tagsOf (convert text) = tagsOf ((blocksOf (lines (escape text))).flatMap Block.html) := by
  have document := Converter.finish_foldl_idle (lines (escape text)) []
  rw [List.flatMap_nil, List.nil_append] at document
  rw [← tagsOf_closeGaps (rendered_document text).marked]
  exact congrArg tagsOf document

theorem marked_inlinesOf (text : Text) : ∀ t ∈ inlinesOf text, Marked [] t := by
  intro t member
  obtain ⟨block, inside, own⟩ := List.mem_flatMap.mp member
  have sound := sound_blocksOf (marked_lines (marked_escape text)) block inside
  cases block with
  | code lines => cases own
  | heading level title =>
    obtain rfl := List.mem_singleton.mp own
    exact sound.2.2
  | _ => exact sound t own

/-- All tags but those of emphasis are nested. All tags are nested exactly if those inside each link
are: the emphasis in its address, which is written first, and in its label. -/
theorem nested_convert_iff (text : Text) :
    Nested ((tagsOf (convert text)).filter fun tag => !isEmphasis tag.name) ∧
      (Nested (tagsOf (convert text)) ↔
        ∀ link ∈ linksOf text, Nested (tagsOf (link.url ++ link.label))) := by
  have surrounds := (rendered_document text).surrounds
  have marked := marked_inlinesOf text
  rw [tagsOf_convert]
  refine ⟨?_, ?_, ?_⟩
  · apply surrounds.nested_filter fun name => !isEmphasis name
    intro part member
    obtain ⟨t, inside, rfl⟩ := List.mem_map.mp member
    exact nested_filter_renderInline (marked t inside)
  · intro nested link member
    obtain ⟨t, inside, found⟩ := List.mem_flatMap.mp member
    have within := (link_infix_renderInline (marked t inside) found).trans
      (surrounds.infix_of_mem (List.mem_map_of_mem inside))
    refine Nested.of_enclose_infix ?_ within nested
    intro tag own same
    have emphasis := isEmphasis_of_mem_inlineLinks (marked t inside) found tag own
    rw [same] at emphasis
    cases emphasis
  · intro inside
    apply surrounds.nested
    intro part member
    obtain ⟨t, own, rfl⟩ := List.mem_map.mp member
    exact nested_renderInline (marked t own) fun link found =>
      inside link (List.mem_flatMap.mpr ⟨t, own, found⟩)

/-- A link that begins before a pair of emphasis and ends inside it. -/
theorem not_nested_crossing_link :
    ¬ Nested (tagsOf (convert "[a **b](u) c**".toList)) := by
  decide +kernel

end Folio.Markup
