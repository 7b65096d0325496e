import Folio.Proofs.Markup.Escaping
import Folio.Proofs.Text.Splitting

/-! No raw markup gets through: every angle bracket of a converted text belongs to a tag of the
converter's own, and every ampersand to an entity. -/
namespace Folio.Markup

open Text (Pattern Blank isBlank dropPrefix?_eq_some run?_eq_some_iff)

def elementNames : List String :=
  ["p", "h1", "h2", "h3", "h4", "h5", "h6", "ul", "ol", "li", "blockquote", "pre", "code", "table",
    "thead", "tbody", "tr", "th", "td", "b", "i"]

def openTag (name : String) : Text := ['<'] ++ name.toList ++ ['>']

def closeTag (name : String) : Text := ['<', '/'] ++ name.toList ++ ['>']

/-- The fixed texts that the converter adds. The opening tag of a link is in two parts, with the
address between them. -/
def ownTags : List Text :=
  elementNames.map openTag ++ elementNames.map closeTag ++
    ["<hr />".toList, "<a href=\"".toList, "\">".toList, "</a>".toList]

def emphasisTags : List Text := ["b", "i"].map openTag ++ ["b", "i"].map closeTag

theorem emphasisTags_sub : ∀ t ∈ emphasisTags, t ∈ ownTags := by decide +kernel

/-! Inline markup -/

theorem emphasis_read {n : Nat} {s inner r : Text} (h : (emphasis n).read? s = some (inner, r)) :
    s = stars n ++ (inner ++ (stars n ++ r)) := by
  simp only [emphasis, Option.bind_eq_bind, Option.bind_eq_some_iff, Option.pure_def, Prod.exists,
    dropPrefix?_eq_some, run?_eq_some_iff] at h
  obtain ⟨_, rfl, i, _, ⟨rfl, _⟩, _, rfl, out⟩ := h
  cases out
  rfl

theorem emphasis_starts (n : Nat) (c : Char) (s : Text) (other : c ≠ '*') :
    (emphasis (n + 1)).read? (c :: s) = none := by
  have unread : Text.dropPrefix? (stars (n + 1)) (c :: s) = none := by
    simp [stars, List.replicate_succ, Text.dropPrefix?, Ne.symm other]
  simp [emphasis, unread]

theorem links_read {s r : Text} {link : Link} (h : links.read? s = some (link, r)) :
    s = '[' :: (link.label ++ ']' :: '(' :: (link.url ++ ')' :: r)) := by
  simp only [links, Option.bind_eq_bind, Option.bind_eq_some_iff, Option.pure_def, Prod.exists,
    dropPrefix?_eq_some, run?_eq_some_iff] at h
  obtain ⟨_, rfl, label, _, ⟨rfl, _⟩, _, rfl, url, _, ⟨rfl, _⟩, _, rfl, out⟩ := h
  cases out
  rfl

theorem links_starts (c : Char) (s : Text) (other : c ≠ '[') : links.read? (c :: s) = none := by
  simp [links, Text.dropPrefix?, Ne.symm other]

theorem codeSpans_read {s code r : Text} (h : codeSpans.read? s = some (code, r)) :
    s = backtick :: (code ++ backtick :: r) := by
  simp only [codeSpans, Option.bind_eq_bind, Option.bind_eq_some_iff, Option.pure_def, Prod.exists,
    dropPrefix?_eq_some, run?_eq_some_iff] at h
  obtain ⟨_, rfl, code, _, ⟨rfl, _⟩, _, rfl, out⟩ := h
  cases out
  rfl

theorem codeSpans_starts (c : Char) (s : Text) (other : c ≠ backtick) :
    codeSpans.read? (c :: s) = none := by
  simp [codeSpans, Text.dropPrefix?, Ne.symm other]

theorem foreign_stars {tags : List Text} (star : Foreign tags '*') (n : Nat) :
    ∀ c ∈ stars n, Foreign tags c := by
  intro c hc
  rw [List.eq_of_mem_replicate hc]
  exact star

theorem marked_of_emphasis_read {tags : List Text} (star : Foreign tags '*') {n : Nat}
    {s inner r : Text} (found : (emphasis (n + 1)).read? s = some (inner, r)) (h : Marked tags s) :
    Marked tags inner ∧ Marked tags r := by
  rw [emphasis_read found] at h
  have behind := h.drop (foreign_stars star (n + 1))
  have parts := behind.split (x := '*') (b := stars n ++ r) star
  exact ⟨parts.1, parts.2.drop (foreign_stars star n)⟩

theorem marked_emphasize {n : Nat} {opening closing : String} {s : Text}
    (opens : Marked emphasisTags opening.toList) (closes : Marked emphasisTags closing.toList)
    (h : Marked emphasisTags s) :
    Marked emphasisTags (emphasize (n + 1) opening closing s) := by
  have star : Foreign emphasisTags '*' := by decide
  refine h.replace (by decide) star (fun _ member => member) (emphasis_starts n) ?_
  intro s inner r found marked
  have parts := marked_of_emphasis_read star found marked
  exact ⟨(opens.append parts.1).append closes, parts.2⟩

theorem marked_of_links_read {s r : Text} {link : Link} (found : links.read? s = some (link, r))
    (h : Marked emphasisTags s) :
    Marked emphasisTags link.label ∧ Marked emphasisTags link.url ∧ Marked emphasisTags r := by
  rw [links_read found] at h
  have inside := Marked.of_cons (by decide) h
  have label := inside.split (x := ']') (by decide)
  have url := (Marked.of_cons (by decide) label.2).split (x := ')') (by decide)
  exact ⟨label.1, url.1, url.2⟩

theorem marked_link {link : Link} (label : Marked emphasisTags link.label)
    (url : Marked emphasisTags link.url) : Marked ownTags link.html := by
  have before : Marked ownTags "<a href=\"".toList := .single (by decide +kernel)
  have between : Marked ownTags "\">".toList := .single (by decide +kernel)
  have after : Marked ownTags "</a>".toList := .single (by decide +kernel)
  exact (((before.append (url.mono emphasisTags_sub)).append between).append
    (label.mono emphasisTags_sub)).append after

theorem marked_renderPlain {s : Text} (h : Marked [] s) : Marked ownTags (renderPlain s) := by
  have bold : Marked emphasisTags "<b>".toList := .single (by decide)
  have boldEnd : Marked emphasisTags "</b>".toList := .single (by decide)
  have italic : Marked emphasisTags "<i>".toList := .single (by decide)
  have italicEnd : Marked emphasisTags "</i>".toList := .single (by decide)
  have plain : Marked emphasisTags s := h.mono (by simp)
  have threefold : Marked emphasisTags (emphasize 3 "<b><i>" "</i></b>" s) :=
    marked_emphasize (bold.append italic) (italicEnd.append boldEnd) plain
  have twofold := marked_emphasize (n := 1) bold boldEnd threefold
  have emphasized := marked_emphasize (n := 0) italic italicEnd twofold
  refine emphasized.replace (x := '[') (by decide) (by decide) emphasisTags_sub links_starts ?_
  intro s link r found marked
  obtain ⟨label, url, rest⟩ := marked_of_links_read found marked
  exact ⟨marked_link label url, rest⟩

theorem marked_element {name : String} (member : name ∈ elementNames) {content : Text}
    (h : Marked ownTags content) : Marked ownTags (element name.toList content) := by
  have opens : openTag name ∈ ownTags :=
    List.mem_append_left _ (List.mem_append_left _ (List.mem_map_of_mem member))
  have closes : closeTag name ∈ ownTags :=
    List.mem_append_left _ (List.mem_append_right _ (List.mem_map_of_mem member))
  have whole := ((Marked.single opens).append h).append (.single closes)
  simpa [element, openTag, closeTag] using whole

theorem marked_codePieces {s : Text} (h : Marked [] s) :
    ∀ piece ∈ codeSpans.cut s, piece.Holds (Marked []) (Marked []) := by
  refine h.cut (x := backtick) (by simp) (by decide) codeSpans_starts ?_
  intro s code r found marked
  rw [codeSpans_read found] at marked
  exact (Marked.of_cons (by decide) marked).split (x := backtick) (by decide)

theorem marked_renderInline {s : Text} (h : Marked [] s) : Marked ownTags (renderInline s) := by
  have pieces := marked_codePieces h
  apply Marked.flatMap
  intro piece member
  cases piece with
  | plain t => exact marked_renderPlain (pieces (.plain t) member)
  | found code =>
    have inside : Marked [] code := pieces (.found code) member
    have opens : Marked ownTags "<code>".toList := .single (by decide +kernel)
    have closes : Marked ownTags "</code>".toList := .single (by decide +kernel)
    show Marked ownTags ("<code>".toList ++ escapeKeeping code ++ "</code>".toList)
    rw [escapeKeeping_of_marked inside]
    exact (opens.append (inside.mono (by simp))).append closes

/-! Blocks -/

theorem marked_within {name : String} (member : name ∈ elementNames) {content : Text}
    (h : Marked ownTags content) : Marked ownTags (within name content) :=
  marked_element member h

theorem marked_listTag (kind : ListKind) {content : Text} (h : Marked ownTags content) :
    Marked ownTags (element kind.tag content) := by
  cases kind with
  | unordered => exact marked_element (show "ul" ∈ elementNames by decide) h
  | ordered => exact marked_element (show "ol" ∈ elementNames by decide) h

theorem marked_headingTag {level : Nat} (first : 1 ≤ level) (last : level ≤ 6) {content : Text}
    (h : Marked ownTags content) :
    Marked ownTags (element (Converter.headingTag level) content) := by
  have named : ∃ name ∈ elementNames, Converter.headingTag level = name.toList := by
    interval_cases level
    · exact ⟨"h1", by decide, rfl⟩
    · exact ⟨"h2", by decide, rfl⟩
    · exact ⟨"h3", by decide, rfl⟩
    · exact ⟨"h4", by decide, rfl⟩
    · exact ⟨"h5", by decide, rfl⟩
    · exact ⟨"h6", by decide, rfl⟩
  obtain ⟨name, member, same⟩ := named
  rw [same]
  exact marked_element member h

theorem marked_join {pieces : List Text} (h : ∀ piece ∈ pieces, Marked [] piece) :
    Marked [] (Text.join [' '] pieces) := by
  induction pieces with
  | nil => exact .nil
  | cons piece pieces ih =>
    have first := h piece (by simp)
    have others := ih fun p member => h p (List.mem_cons_of_mem piece member)
    cases pieces with
    | nil => simpa only [Text.join_singleton] using first
    | cons next pieces =>
      rw [Text.join_cons_cons]
      exact first.append (.char (by decide) (by decide) (by decide) others)

theorem marked_row {cell : String} (member : cell ∈ elementNames) {line : Text}
    (h : Marked [] line) : Marked ownTags (Block.row cell line) := by
  refine marked_within (by decide) (.flatMap ?_)
  intro content inside
  exact marked_within member (marked_renderInline (marked_cells h content inside))

theorem marked_code {lines : List Text} (h : ∀ line ∈ lines, Marked [] line) :
    Marked ownTags (Block.code lines).html := by
  refine marked_within (by decide) (marked_within (by decide) (.flatMap ?_))
  intro line member
  have inside := h line member
  rw [escapeKeeping_of_marked inside]
  have ended : Marked [] (line ++ ['\n']) :=
    inside.append (.char (by decide) (by decide) (by decide) .nil)
  exact ended.mono (by simp)

theorem marked_tableOf {rows : List Text} (h : ∀ line ∈ rows, Marked [] line) :
    Marked ownTags (Block.tableOf rows) := by
  cases rows with
  | nil => exact .nil
  | cons header rows =>
    have head := marked_row (show "th" ∈ elementNames by decide) (h header (by simp))
    have body : Marked ownTags (rows.flatMap fun line => Block.row "td" line) :=
      .flatMap fun line member => marked_row (by decide) (h line (List.mem_cons_of_mem _ member))
    exact marked_within (by decide)
      ((marked_within (by decide) head).append (marked_within (by decide) body))

theorem marked_ofRun {first : Line} (sound : first.Sound) {run : List Text}
    (h : ∀ line ∈ run, Marked [] line) :
    Marked ownTags ((Block.ofRun first run).flatMap Block.html) := by
  -- marks are taken off every line of a run by that line's own class
  have rests : ∀ line ∈ run, Marked [] (classOf line).rest := by
    intro line member
    have own := sound_classOf (h line member)
    cases class_ : classOf line with
    | quote rest => rwa [class_] at own
    | item kind rest => rwa [class_] at own
    | _ => exact .nil
  cases first with
  | row =>
    simp only [Block.ofRun, List.flatMap_cons, List.flatMap_nil, List.append_nil, Block.html]
    exact marked_tableOf fun line member => h line (List.mem_filter.mp member).1
  | quote rest =>
    simp only [Block.ofRun, List.flatMap_cons, List.flatMap_nil, List.append_nil, Block.html,
      List.flatMap_map]
    refine marked_within (by decide) (.flatMap fun line member => ?_)
    exact (marked_renderInline (rests line member)).append
      (.char (by decide) (by decide) (by decide) .nil)
  | item kind rest =>
    simp only [Block.ofRun, List.flatMap_cons, List.flatMap_nil, List.append_nil, Block.html,
      List.flatMap_map]
    refine marked_listTag kind (.flatMap fun line member => ?_)
    exact marked_within (by decide) (marked_renderInline (rests line member))
  | heading level title =>
    simp only [Block.ofRun, List.flatMap_cons, List.flatMap_nil, List.append_nil, Block.html]
    exact marked_headingTag sound.1 sound.2.1 (marked_renderInline sound.2.2)
  | rule =>
    have member : ruleTag ∈ ownTags := by decide +kernel
    simpa [Block.ofRun, Block.html] using Marked.single member
  | blank => exact .nil
  | prose =>
    simp only [Block.ofRun, List.flatMap_cons, List.flatMap_nil, List.append_nil, Block.html]
    refine marked_within (by decide) (marked_renderInline (marked_join ?_))
    intro piece member
    obtain ⟨line, inside, rfl⟩ := List.mem_map.mp member
    exact (h line inside).strip

theorem marked_blocksOf {lines : List Text} (h : ∀ line ∈ lines, Marked [] line) :
    Marked ownTags ((blocksOf lines).flatMap Block.html) := by
  induction lines using blocksOf.induct with
  | case1 =>
    rw [blocksOf]
    exact .nil
  | case2 line lines fence ih =>
    rw [blocksOf, if_pos fence, List.flatMap_cons]
    have code : Marked ownTags (Block.code (lines.takeWhile fun line => !isFence line)).html :=
      marked_code fun l member =>
        h l (List.mem_cons_of_mem _ ((List.takeWhile_sublist _).mem member))
    exact code.append (ih fun l member => h l (List.mem_cons_of_mem _
      ((List.dropWhile_sublist _).mem (List.mem_of_mem_tail member))))
  | case3 line lines unfenced first ih =>
    rw [blocksOf, if_neg unfenced, List.flatMap_append]
    have inside : ∀ l ∈ line :: lines.takeWhile (inRun first), Marked [] l := by
      intro l member
      rcases List.mem_cons.mp member with rfl | member
      · exact h l (by simp)
      · exact h l (List.mem_cons_of_mem _ ((List.takeWhile_sublist _).mem member))
    have run := marked_ofRun (sound_classOf (h line (by simp))) inside
    exact run.append (ih fun l member => h l (List.mem_cons_of_mem _
      ((List.dropWhile_sublist _).mem member)))

/-! The gaps between tags -/

theorem gap_starts (c : Char) (s : Text) (other : c ≠ '>') :
    Converter.tagGaps.read? (c :: s) = none := by
  simp [Converter.tagGaps, Text.dropPrefix?, Ne.symm other]

/-- Behind a closing bracket only white space is ever left out. -/
theorem closeGaps_greater (s : Text) :
    ∃ w t, Blank w ∧ s = w ++ t ∧
      Converter.closeGaps ('>' :: s) = '>' :: Converter.closeGaps t := by
  cases found : Converter.tagGaps.read? ('>' :: s) with
  | none => exact ⟨[], s, by simp [Blank], rfl, Converter.tagGaps.replace_cons_of_none _ found⟩
  | some out =>
    obtain ⟨_, r⟩ := out
    have gap := Converter.tagGaps.replace_of_read? (fun _ => ['>', '<']) found
    have bracket := Converter.tagGaps.replace_cons_of_none (fun _ => ['>', '<'])
      (gap_starts '<' r (by decide))
    simp only [Converter.tagGaps, Option.bind_eq_bind, Option.bind_eq_some_iff, Option.pure_def,
      Prod.exists, dropPrefix?_eq_some, run?_eq_some_iff] at found
    obtain ⟨_, same, w, _, ⟨rfl, _, blank, _⟩, _, rfl, out⟩ := found
    cases out
    refine ⟨w, '<' :: r, blank, by simpa using same, ?_⟩
    unfold Converter.closeGaps
    rw [gap, bracket]
    rfl

/-- Tags that do not begin with white space and hold a closing bracket only at their end. -/
def Closing (tags : List Text) : Prop :=
  ∀ t ∈ tags, (t.head?.any fun c => !isBlank c) = true ∧ '>' ∉ t.dropLast

theorem closing_ownTags : Closing ownTags := by
  unfold Closing
  decide +kernel

theorem marked_tail_of_isBlank {tags : List Text} (closing : Closing tags) {c : Char} {s : Text}
    (blank : isBlank c = true) (h : Marked tags (c :: s)) : Marked tags s := by
  generalize same : c :: s = u at h
  cases h with
  | nil => cases same
  | char _ _ _ h =>
    cases same
    exact h
  | entity member h =>
    obtain ⟨name, rfl, _⟩ := entity_shape member
    cases same
    cases blank
  | @tag t _ member h =>
    have solid := (closing t member).1
    cases t with
    | nil => cases solid
    | cons d t =>
      cases same
      simp [blank] at solid

theorem marked_of_blank_append {tags : List Text} (closing : Closing tags) {w s : Text}
    (blank : Blank w) (h : Marked tags (w ++ s)) : Marked tags s := by
  induction w with
  | nil => exact h
  | cons c w ih =>
    have rest := marked_tail_of_isBlank closing (blank c (by simp)) h
    exact ih (fun d hd => blank d (List.mem_cons_of_mem c hd)) rest

theorem closeGaps_append {s : Text} (open_ : '>' ∉ s) (t : Text) :
    Converter.closeGaps (s ++ t) = s ++ Converter.closeGaps t :=
  Converter.tagGaps.replace_append _ (Converter.tagGaps.unread_of_not_mem gap_starts open_) t

/-- A text with a closing bracket at most at its end stays whole, whatever follows. -/
theorem closeGaps_atom {t : Text} (nonempty : t ≠ []) (front : '>' ∉ t.dropLast) (s : Text) :
    ∃ w rest, Blank w ∧ s = w ++ rest ∧
      Converter.closeGaps (t ++ s) = t ++ Converter.closeGaps rest := by
  have whole := List.dropLast_concat_getLast nonempty
  by_cases last : t.getLast nonempty = '>'
  · obtain ⟨w, rest, blank, rfl, same⟩ := closeGaps_greater s
    rw [last] at whole
    refine ⟨w, rest, blank, rfl, ?_⟩
    rw [← whole, List.append_assoc, closeGaps_append front, List.singleton_append, same]
    simp
  · have silent : '>' ∉ t := by
      rw [← whole]
      simp [front, Ne.symm last]
    exact ⟨[], s, by simp [Blank], rfl, closeGaps_append silent s⟩

/-- Leaving out white space between tags leaves every tag and every entity whole. -/
theorem marked_closeGaps {tags : List Text} (closing : Closing tags) {s : Text}
    (h : Marked tags s) : Marked tags (Converter.closeGaps s) := by
  generalize size : s.length = n
  induction n using Nat.strongRecOn generalizing s with
  | _ n ih =>
    subst size
    cases h with
    | nil =>
      have same : Converter.closeGaps [] = [] := Converter.tagGaps.replace_nil _
      rw [same]
      exact .nil
    | @char c s h₁ h₂ h₃ h =>
      have same := closeGaps_append (s := [c]) (by simpa using Ne.symm h₂) s
      rw [List.singleton_append] at same
      rw [same]
      exact .char h₁ h₂ h₃ (ih s.length (by simp) h rfl)
    | @entity e s member h =>
      obtain ⟨name, rfl, _, _, noGreater, _⟩ := entity_shape member
      rw [closeGaps_append (by simpa using noGreater) s]
      have shorter : s.length < ('&' :: name ++ s).length := by
        simp only [List.length_append, List.length_cons]
        omega
      exact .entity member (ih s.length shorter h rfl)
    | @tag t s member h =>
      obtain ⟨solid, front⟩ := closing t member
      have nonempty : t ≠ [] := by
        rintro rfl
        cases solid
      obtain ⟨w, rest, blank, rfl, same⟩ := closeGaps_atom nonempty front s
      rw [same]
      have positive := List.length_pos_iff.mpr nonempty
      have shorter : rest.length < (t ++ (w ++ rest)).length := by
        simp only [List.length_append]
        omega
      exact .tag member (ih rest.length shorter (marked_of_blank_append closing blank h) rfl)

theorem Marked.pieces {tags : List Text} {s : Text} (h : Marked tags s) :
    ∃ pieces : List Text, s = pieces.flatten ∧ ∀ piece ∈ pieces, piece ∈ tags ∨ Escaped piece := by
  induction h with
  | nil => exact ⟨[], rfl, by simp⟩
  | @char c s h₁ h₂ h₃ _ ih =>
    obtain ⟨pieces, rfl, all⟩ := ih
    have own : Escaped [c] := Marked.escaped (.char h₁ h₂ h₃ .nil)
    exact ⟨[c] :: pieces, rfl, List.forall_mem_cons.mpr ⟨.inr own, all⟩⟩
  | @entity e s member _ ih =>
    obtain ⟨pieces, rfl, all⟩ := ih
    have own : Escaped e := Marked.escaped (.ofEntity member)
    exact ⟨e :: pieces, rfl, List.forall_mem_cons.mpr ⟨.inr own, all⟩⟩
  | @tag t s member _ ih =>
    obtain ⟨pieces, rfl, all⟩ := ih
    exact ⟨t :: pieces, rfl, List.forall_mem_cons.mpr ⟨.inl member, all⟩⟩

theorem marked_convert (s : Text) : Marked ownTags (convert s) := by
  have blocks := marked_blocksOf (marked_lines (marked_escape s))
  have document := Converter.finish_foldl_idle (lines (escape s)) []
  rw [List.flatMap_nil, List.nil_append] at document
  have same : convert s =
      Converter.closeGaps ((blocksOf (lines (escape s))).flatMap Block.html) := document
  rw [same]
  exact marked_closeGaps closing_ownTags blocks

/-- The lines that are converted hold no raw markup, and the converted text is made of the
converter's own tags and of text pieces without raw markup. -/
theorem convert_pieces (s : Text) :
    (∀ line ∈ lines (escape s), Escaped line) ∧
      ∃ pieces : List Text, convert s = pieces.flatten ∧
        ∀ piece ∈ pieces, piece ∈ ownTags ∨ Escaped piece := by
  constructor
  · intro line member
    exact (marked_lines (marked_escape s) line member).escaped
  · exact (marked_convert s).pieces

end Folio.Markup
