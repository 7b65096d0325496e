import Folio.Data.Dialect
import Folio.Proofs.Text.Scan
import Mathlib.Data.List.Induction
import Mathlib.Data.List.Nodup

/-! The mapping that a document in the plain dialect denotes, told without the pass over its lines:
which lines count, which keys there are, and which line decides the value of a key. -/
namespace Folio

namespace Members

variable {name : Text} {value : Value} {fields : Fields}

theorem names_set : (set name value fields).map Prod.fst =
    if name ∈ fields.map Prod.fst then fields.map Prod.fst else fields.map Prod.fst ++ [name] := by
  induction fields with
  | nil => rfl
  | cons field fields ih =>
    obtain ⟨key, old⟩ := field
    by_cases here : key = name
    · simp [set, here]
    · rw [set, if_neg here, List.map_cons, List.map_cons, ih]
      by_cases later : name ∈ fields.map Prod.fst
      · rw [if_pos later, if_pos (List.mem_cons_of_mem key later)]
      · have absent : name ∉ key :: fields.map Prod.fst := by
          simpa [Ne.symm here] using later
        rw [if_neg later, if_neg absent, List.cons_append]

/-- Fields are told apart by their names in order and by the value of each. -/
theorem eq_of_get? {fields' : Fields} (distinct : (fields.map Prod.fst).Nodup)
    (names : fields.map Prod.fst = fields'.map Prod.fst)
    (values : ∀ name ∈ fields.map Prod.fst, get? name fields = get? name fields') :
    fields = fields' := by
  induction fields generalizing fields' with
  | nil => exact (List.map_eq_nil_iff.mp names.symm).symm
  | cons field fields ih =>
    obtain ⟨key, value⟩ := field
    cases fields' with
    | nil => cases names
    | cons field' fields' =>
      obtain ⟨key', value'⟩ := field'
      obtain ⟨same, later⟩ := List.cons.inj names
      obtain rfl : key = key' := same
      obtain ⟨absent, distinct⟩ := List.nodup_cons.mp distinct
      have first : value = value' := by simpa [get?] using values key (by simp)
      have rest : fields = fields' := by
        refine ih distinct later fun name member => ?_
        have other : key ≠ name := fun same => absent (same ▸ member)
        simpa [get?, other] using values name (List.mem_cons_of_mem _ member)
      rw [first, rest]

end Members

namespace Data

section Reading

/-- The lines of a document that count, without the white space at their ends. Empty lines and
comments do not. -/
def significant (document : Text) : List Text :=
  ((Text.splitOn '\n' document).map Text.strip).filter fun line =>
    line ≠ [] ∧ line.head? ≠ some '#'

/-- The key of a line with a colon, whatever the line starts with. -/
def keyOf? (line : Text) : Option Text :=
  if ':' ∈ line then some (Text.strip (line.takeWhile (· ≠ ':'))) else none

/-- What stands behind the first colon. -/
def valueText (line : Text) : Text := Text.strip ((line.dropWhile (· ≠ ':')).drop 1)

/-- The item of a line that starts with a dash and has no colon. -/
def itemOf? (line : Text) : Option Text :=
  if line.head? = some '-' ∧ ':' ∉ line then some (Text.strip (line.drop 1)) else none

/-- The items on the lines up to the next one with a key. -/
def itemsBehind (lines : List Text) : List Value :=
  ((lines.takeWhile fun line => (keyOf? line).isNone).filterMap itemOf?).map .text

/-- The value that a line with a key gives to its key, from what follows it. -/
def valueAt (line : Text) (after : List Text) : Value :=
  if valueText line = [] then .seq (itemsBehind after) else readScalar (valueText line)

/-- The fields that lines denote: every key once, in the order of the first lines of the keys, with
the value that the last line of the key gives. -/
structure Denotes (lines : List Text) (fields : Fields) : Prop where
  keys : fields.map Prod.fst = (lines.filterMap keyOf?).eraseDups
  value : ∀ before line after key, lines = before ++ line :: after → keyOf? line = some key →
    (∀ later ∈ after, keyOf? later ≠ some key) → fields.get? key = some (valueAt line after)

end Reading

section Lines

theorem cutAt?_eq_some {separator : Char} {s : Text} (member : separator ∈ s) :
    Text.cutAt? separator s =
      some (s.takeWhile (· ≠ separator), (s.dropWhile (· ≠ separator)).drop 1) := by
  induction s with
  | nil => cases member
  | cons c s ih =>
    by_cases here : c = separator
    · simp [Text.cutAt?, here]
    · have later : separator ∈ s := (List.mem_cons.mp member).resolve_left (Ne.symm here)
      simp [Text.cutAt?, here, ih later]

theorem cutAt?_eq_none {separator : Char} {s : Text} (absent : separator ∉ s) :
    Text.cutAt? separator s = none := by
  induction s with
  | nil => rfl
  | cons c s ih =>
    obtain ⟨other, absent⟩ := List.ne_and_not_mem_of_not_mem_cons absent
    simp [Text.cutAt?, Ne.symm other, ih absent]

structure Significant (line : Text) : Prop where
  stripped : line.strip = line
  nonempty : line ≠ []
  uncommented : line.head? ≠ some '#'

theorem significant_of_mem {document line : Text} (member : line ∈ significant document) :
    Significant line := by
  obtain ⟨listed, counts⟩ := List.mem_filter.mp member
  obtain ⟨raw, -, rfl⟩ := List.mem_map.mp listed
  obtain ⟨nonempty, uncommented⟩ := of_decide_eq_true counts
  exact ⟨Text.strip_strip raw, nonempty, uncommented⟩

theorem ofText_strip (raw : Text) : Line.ofText raw.strip = Line.ofText raw := by
  rw [Line.ofText, Line.ofText, Text.strip_strip]

/-- What does not count has no effect. -/
theorem ofText_of_insignificant {raw : Text}
    (skipped : ¬ (raw.strip ≠ [] ∧ raw.strip.head? ≠ some '#')) : Line.ofText raw = .other := by
  unfold Line.ofText
  split
  · rfl
  · rfl
  · rename_i nonempty uncommented
    refine absurd ⟨nonempty, fun comment => ?_⟩ skipped
    obtain ⟨rest, starts⟩ := List.head?_eq_some_iff.mp comment
    exact uncommented rest starts

theorem Significant.ofText : ∀ {line : Text}, Significant line →
    Line.ofText line = match Text.cutAt? ':' line with
      | some (key, value) => .entry key.strip value.strip
      | none =>
        match line with
        | '-' :: rest => .item (Text.strip rest)
        | _ => .other := by
  intro line counts
  rw [Line.ofText, counts.stripped]
  split
  · exact absurd rfl counts.nonempty
  · exact absurd rfl counts.uncommented
  · rfl

variable {line key : Text}

theorem Significant.ofText_of_key (counts : Significant line) (found : keyOf? line = some key) :
    Line.ofText line = .entry key (valueText line) := by
  unfold keyOf? at found
  split at found
  · rename_i colon
    rw [counts.ofText, cutAt?_eq_some colon]
    cases found
    rfl
  · cases found

theorem Significant.ofText_of_item (counts : Significant line) {s : Text}
    (found : itemOf? line = some s) : Line.ofText line = .item s := by
  unfold itemOf? at found
  split at found
  · rename_i shape
    obtain ⟨rest, rfl⟩ := List.head?_eq_some_iff.mp shape.1
    rw [counts.ofText, cutAt?_eq_none shape.2]
    cases found
    rfl
  · cases found

theorem Significant.ofText_of_none (counts : Significant line) (noKey : keyOf? line = none)
    (noItem : itemOf? line = none) : Line.ofText line = .other := by
  have noColon : ':' ∉ line := by simpa [keyOf?] using noKey
  have noDash : line.head? ≠ some '-' := by simpa [itemOf?, noColon] using noItem
  rw [counts.ofText, cutAt?_eq_none noColon]
  dsimp only
  split
  · exact absurd rfl noDash
  · rfl

end Lines

section Names

theorem eraseDups_concat (names : List Text) (name : Text) : (names ++ [name]).eraseDups =
    if name ∈ names then names.eraseDups else names.eraseDups ++ [name] := by
  rw [List.eraseDups_append]
  by_cases member : name ∈ names
  · simp [member, List.removeAll]
  · simp [member, List.removeAll, List.eraseDups_cons]

theorem nodup_eraseDups (names : List Text) : names.eraseDups.Nodup := by
  induction names using List.reverseRecOn with
  | nil => exact List.nodup_nil
  | append_singleton names name ih =>
    rw [eraseDups_concat]
    split
    · exact ih
    · rename_i absent
      rw [← List.mem_eraseDups] at absent
      exact List.nodup_append_comm.mp (List.nodup_cons.mpr ⟨absent, ih⟩)

end Names

section Pass

namespace Progress

variable {p : Progress} {line key : Text} {lines : List Text}

def read (p : Progress) (lines : List Text) : Progress :=
  lines.foldl (fun p line => p.step (Line.ofText line)) p

theorem read_cons (p : Progress) (line : Text) (lines : List Text) :
    p.read (line :: lines) = (p.step (Line.ofText line)).read lines := rfl

theorem read_append (p : Progress) (lines later : List Text) :
    p.read (lines ++ later) = (p.read lines).read later :=
  List.foldl_append

theorem read_filter (test : Text → Bool)
    (skipped : ∀ line ∈ lines, test line = false → Line.ofText line = .other) :
    p.read (lines.filter test) = p.read lines := by
  induction lines generalizing p with
  | nil => rfl
  | cons line lines ih =>
    obtain ⟨first, later⟩ := List.forall_mem_cons.mp skipped
    cases kept : test line with
    | true =>
      rw [List.filter_cons_of_pos kept]
      exact ih later
    | false =>
      rw [List.filter_cons_of_neg (by simp [kept]), ih later, read_cons, first kept, step]

/-- After a line with a key, the key has its value, and it takes items if there was none on the
line. -/
theorem step_of_key (counts : Significant line) (found : keyOf? line = some key) :
    p.step (Line.ofText line) =
      if valueText line = [] then ⟨p.fields.set key (.seq []), some (key, [])⟩
      else ⟨p.fields.set key (readScalar (valueText line)), none⟩ := by
  rw [counts.ofText_of_key found]
  cases valueText line <;> rfl

/-- Lines without a key only add to the items of the key that takes them. -/
theorem read_of_collecting {items : List Value} (counts : ∀ line ∈ lines, Significant line)
    (keyless : ∀ line ∈ lines, keyOf? line = none) (collecting : p.collecting = some (key, items))
    (holds : p.fields.get? key = some (.seq items)) :
    let added := items ++ (lines.filterMap itemOf?).map .text
    (p.read lines).collecting = some (key, added) ∧
      (p.read lines).fields.get? key = some (.seq added) := by
  induction lines generalizing p items with
  | nil => simpa [read] using ⟨collecting, holds⟩
  | cons line lines ih =>
    obtain ⟨countsLine, counts⟩ := List.forall_mem_cons.mp counts
    obtain ⟨keylessLine, keyless⟩ := List.forall_mem_cons.mp keyless
    rw [read_cons]
    cases found : itemOf? line with
    | none =>
      rw [countsLine.ofText_of_none keylessLine found, step, List.filterMap_cons_none found]
      exact ih counts keyless collecting holds
    | some s =>
      have taken : p.step (Line.ofText line) =
          ⟨p.fields.set key (.seq (items ++ [.text s])), some (key, items ++ [.text s])⟩ := by
        rw [countsLine.ofText_of_item found, step, collecting]
      rw [taken, List.filterMap_cons_some found, List.map_cons, List.append_cons]
      exact ih counts keyless rfl (Members.get?_set_self key _ _)

theorem read_of_idle (counts : ∀ line ∈ lines, Significant line)
    (keyless : ∀ line ∈ lines, keyOf? line = none) (idle : p.collecting = none) :
    p.read lines = p := by
  induction lines with
  | nil => rfl
  | cons line lines ih =>
    obtain ⟨countsLine, counts⟩ := List.forall_mem_cons.mp counts
    obtain ⟨keylessLine, keyless⟩ := List.forall_mem_cons.mp keyless
    have stays : p.step (Line.ofText line) = p := by
      cases found : itemOf? line with
      | none => rw [countsLine.ofText_of_none keylessLine found, step]
      | some s => rw [countsLine.ofText_of_item found, step, idle]
    rw [read_cons, stays, ih counts keyless]

/-- Another key, if any, takes items. -/
def Elsewhere (key : Text) (p : Progress) : Prop :=
  ∀ other items, p.collecting = some (other, items) → other ≠ key

theorem step_elsewhere (counts : Significant line) (other : keyOf? line ≠ some key)
    (elsewhere : p.Elsewhere key) :
    (p.step (Line.ofText line)).Elsewhere key ∧
      (p.step (Line.ofText line)).fields.get? key = p.fields.get? key := by
  cases found : keyOf? line with
  | some named =>
    have distinct : named ≠ key := fun same => other (found.trans (congrArg some same))
    rw [step_of_key counts found]
    split
    · refine ⟨?_, Members.get?_set_of_ne (Ne.symm distinct) _ _⟩
      rintro _ _ ⟨⟩
      exact distinct
    · refine ⟨?_, Members.get?_set_of_ne (Ne.symm distinct) _ _⟩
      rintro _ _ ⟨⟩
  | none =>
    cases item : itemOf? line with
    | none =>
      rw [counts.ofText_of_none found item]
      exact ⟨elsewhere, rfl⟩
    | some s =>
      rw [counts.ofText_of_item item]
      cases collecting : p.collecting with
      | none =>
        rw [step, collecting]
        exact ⟨elsewhere, rfl⟩
      | some taking =>
        obtain ⟨named, items⟩ := taking
        have distinct : named ≠ key := elsewhere named items collecting
        rw [step, collecting]
        refine ⟨?_, Members.get?_set_of_ne (Ne.symm distinct) _ _⟩
        rintro _ _ ⟨⟩
        exact distinct

theorem read_elsewhere (counts : ∀ line ∈ lines, Significant line)
    (others : ∀ line ∈ lines, keyOf? line ≠ some key) (elsewhere : p.Elsewhere key) :
    (p.read lines).fields.get? key = p.fields.get? key := by
  induction lines generalizing p with
  | nil => rfl
  | cons line lines ih =>
    obtain ⟨countsLine, counts⟩ := List.forall_mem_cons.mp counts
    obtain ⟨other, others⟩ := List.forall_mem_cons.mp others
    obtain ⟨still, kept⟩ := step_elsewhere countsLine other elsewhere
    exact (ih counts others still).trans kept

/-- The first line with a key, if there is one, ends the items of another. -/
theorem read_of_break (counts : ∀ line ∈ lines, Significant line)
    (begins : ∀ line ∈ lines.head?, (keyOf? line).isSome)
    (others : ∀ line ∈ lines, keyOf? line ≠ some key) :
    (p.read lines).fields.get? key = p.fields.get? key := by
  cases lines with
  | nil => rfl
  | cons line lines =>
    obtain ⟨countsLine, counts⟩ := List.forall_mem_cons.mp counts
    obtain ⟨other, others⟩ := List.forall_mem_cons.mp others
    obtain ⟨named, found⟩ := Option.isSome_iff_exists.mp (begins line rfl)
    have distinct : key ≠ named := fun same => other (found.trans (congrArg some same.symm))
    have stepped := step_of_key (p := p) countsLine found
    have elsewhere : (p.step (Line.ofText line)).Elsewhere key := by
      rw [stepped]
      split <;> rintro _ _ ⟨⟩
      exact Ne.symm distinct
    have kept : (p.step (Line.ofText line)).fields.get? key = p.fields.get? key := by
      rw [stepped]
      split <;> exact Members.get?_set_of_ne distinct _ _
    exact (read_elsewhere counts others elsewhere).trans kept

theorem get?_read_of_last {after : List Text} (countsLine : Significant line)
    (counts : ∀ later ∈ after, Significant later) (found : keyOf? line = some key)
    (last : ∀ later ∈ after, keyOf? later ≠ some key) :
    (p.read (line :: after)).fields.get? key = some (valueAt line after) := by
  let keyless : Text → Bool := fun line => (keyOf? line).isNone
  have cut : after = after.takeWhile keyless ++ after.dropWhile keyless :=
    List.takeWhile_append_dropWhile.symm
  have own : ∀ later ∈ after.takeWhile keyless, keyOf? later = none := by
    intro later member
    have taken : keyless later = true := List.mem_takeWhile_imp member
    exact Option.isNone_iff_eq_none.mp taken
  have begins : ∀ later ∈ (after.dropWhile keyless).head?, (keyOf? later).isSome := by
    intro later head
    have stops := Text.stops_dropWhile keyless after later head
    simpa [keyless] using stops
  have first := fun later member =>
    counts later ((List.takeWhile_sublist keyless).subset member)
  have rest := fun later member =>
    counts later ((List.dropWhile_sublist keyless).subset member)
  have others := fun later member =>
    last later ((List.dropWhile_sublist keyless).subset member)
  rw [read_cons, cut, read_append, read_of_break rest begins others, step_of_key countsLine found,
    ← cut, valueAt]
  split
  · let opened : Progress := ⟨p.fields.set key (.seq []), some (key, [])⟩
    have holds : opened.fields.get? key = some (.seq []) := Members.get?_set_self key _ _
    exact (read_of_collecting first own rfl holds).2
  · rw [read_of_idle first own rfl]
    exact Members.get?_set_self key _ _

/-- The names so far, the key that takes items among them. -/
structure Names (p : Progress) (names : List Text) : Prop where
  fields : p.fields.map Prod.fst = names.eraseDups
  collecting : ∀ key items, p.collecting = some (key, items) → key ∈ names

theorem names_set {fields : Fields} {names : List Text}
    (same : fields.map Prod.fst = names.eraseDups) (key : Text) (value : Value) :
    (fields.set key value).map Prod.fst = (names ++ [key]).eraseDups := by
  rw [Members.names_set, same, eraseDups_concat]
  simp only [List.mem_eraseDups]

theorem Names.step {names : List Text} (h : p.Names names) (counts : Significant line) :
    (p.step (Line.ofText line)).Names (names ++ (keyOf? line).toList) := by
  cases found : keyOf? line with
  | some key =>
    rw [step_of_key counts found]
    split
    · refine ⟨names_set h.fields key _, ?_⟩
      rintro _ _ ⟨⟩
      simp
    · exact ⟨names_set h.fields key _, nofun⟩
  | none =>
    rw [Option.toList_none, List.append_nil]
    cases item : itemOf? line with
    | none =>
      rw [counts.ofText_of_none found item]
      exact h
    | some s =>
      rw [counts.ofText_of_item item]
      cases collecting : p.collecting with
      | none =>
        rw [Progress.step, collecting]
        exact h
      | some taking =>
        obtain ⟨key, items⟩ := taking
        have member := h.collecting key items collecting
        rw [Progress.step, collecting]
        refine ⟨?_, ?_⟩
        · rw [Members.names_set, h.fields, if_pos (List.mem_eraseDups.mpr member)]
        · rintro _ _ ⟨⟩
          exact member

theorem Names.read {names : List Text} (h : p.Names names)
    (counts : ∀ line ∈ lines, Significant line) :
    (p.read lines).Names (names ++ lines.filterMap keyOf?) := by
  induction lines generalizing p names with
  | nil => simpa [Progress.read] using h
  | cons line lines ih =>
    obtain ⟨countsLine, counts⟩ := List.forall_mem_cons.mp counts
    have later := ih (h.step countsLine) counts
    rw [List.append_assoc] at later
    rw [read_cons]
    cases found : keyOf? line with
    | none => simpa [found] using later
    | some key => simpa [found] using later

end Progress

end Pass

theorem readDialect_eq_read (document : Text) :
    readDialect document = (Progress.start.read (significant document)).fields := by
  have all : readDialect document =
      (Progress.start.read ((Text.splitOn '\n' document).map Text.strip)).fields := by
    simp only [readDialect, Progress.read, List.foldl_map, ofText_strip]
  rw [all, significant, Progress.read_filter]
  intro line listed skipped
  obtain ⟨raw, -, rfl⟩ := List.mem_map.mp listed
  rw [ofText_strip]
  exact ofText_of_insignificant (of_decide_eq_false skipped)

theorem denotes_readDialect (document : Text) :
    Denotes (significant document) (readDialect document) := by
  have counts : ∀ line ∈ significant document, Significant line :=
    fun line => significant_of_mem
  rw [readDialect_eq_read]
  refine ⟨?_, fun before line after key split found last => ?_⟩
  · have none : Progress.start.Names [] := ⟨rfl, nofun⟩
    exact (none.read counts).fields
  · rw [split] at counts ⊢
    obtain ⟨-, own⟩ := List.forall_mem_append.mp counts
    obtain ⟨countsLine, counts⟩ := List.forall_mem_cons.mp own
    rw [Progress.read_append]
    exact Progress.get?_read_of_last countsLine counts found last

section Unique

theorem exists_last_of_mem {lines : List Text} {key : Text} (member : key ∈ lines.filterMap keyOf?) :
    ∃ before line after, lines = before ++ line :: after ∧ keyOf? line = some key ∧
      ∀ later ∈ after, keyOf? later ≠ some key := by
  induction lines with
  | nil => cases member
  | cons line lines ih =>
    by_cases later : key ∈ lines.filterMap keyOf?
    · obtain ⟨before, last, after, split, found, none⟩ := ih later
      exact ⟨line :: before, last, after, by rw [split, List.cons_append], found, none⟩
    · refine ⟨[], line, lines, rfl, ?_, fun other listed found => ?_⟩
      · obtain ⟨other, listed, found⟩ := List.mem_filterMap.mp member
        rcases List.mem_cons.mp listed with rfl | listed
        · exact found
        · exact absurd (List.mem_filterMap.mpr ⟨other, listed, found⟩) later
      · exact later (List.mem_filterMap.mpr ⟨other, listed, found⟩)

theorem Denotes.unique {lines : List Text} {fields fields' : Fields} (h : Denotes lines fields)
    (h' : Denotes lines fields') : fields = fields' := by
  refine Members.eq_of_get? ?_ (h.keys.trans h'.keys.symm) fun key member => ?_
  · rw [h.keys]
    exact nodup_eraseDups _
  · rw [h.keys, List.mem_eraseDups] at member
    obtain ⟨before, line, after, split, found, last⟩ := exists_last_of_mem member
    rw [h.value before line after key split found last,
      h'.value before line after key split found last]

end Unique

/-- Reading a document gives the fields that its lines denote, and no others. -/
theorem readDialect_eq_iff (document : Text) (fields : Fields) :
    readDialect document = fields ↔ Denotes (significant document) fields := by
  constructor
  · rintro rfl
    exact denotes_readDialect document
  · exact (denotes_readDialect document).unique

end Data

end Folio
