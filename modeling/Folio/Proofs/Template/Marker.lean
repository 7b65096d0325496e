import Folio.Proofs.Text.Scan
import Folio.Template.Marker

/-! The ways to write a marker, and the agreement of the marker reader with them. -/
namespace Folio.Template

open Text

def IsPath (path : Text) : Prop := path ≠ [] ∧ ∀ c ∈ path, isPathChar c = true

def IsName (name : Text) : Prop := name ≠ [] ∧ ∀ c ∈ name, isWord c = true

def BlockKind.endWord : BlockKind → Text
  | .loop => "endfor".toList
  | .condition => "endif".toList

@[simp] theorem BlockKind.endWord_loop : BlockKind.loop.endWord = "endfor".toList := rfl

@[simp] theorem BlockKind.endWord_condition : BlockKind.condition.endWord = "endif".toList := rfl

namespace Marker

/-- Whether names and paths are made of the characters that a template may use for them. -/
def WellFormed : Marker → Prop
  | .slot path => IsPath path
  | .opens (.loop name path) => IsName name ∧ IsPath path
  | .opens (.condition path) => IsPath path
  | .closes _ => True

/-- White space is free inside the brackets and required between two words. -/
inductive Spelling : Marker → Text → Prop
  | slot {path a b : Text} : Blank a → Blank b →
      Spelling (.slot path) (['{', '{'] ++ (a ++ (path ++ (b ++ ['}', '}']))))
  | loop {name path a b c d e : Text} : Blank a → Gap b → Gap c → Gap d → Blank e →
      Spelling (.opens (.loop name path))
        (['{', '%'] ++ (a ++ ("for".toList ++ (b ++ (name ++ (c ++ ("in".toList ++
          (d ++ (path ++ (e ++ ['%', '}']))))))))))
  | condition {path a b c : Text} : Blank a → Gap b → Blank c →
      Spelling (.opens (.condition path))
        (['{', '%'] ++ (a ++ ("if".toList ++ (b ++ (path ++ (c ++ ['%', '}']))))))
  | closes {kind : BlockKind} {a b : Text} : Blank a → Blank b →
      Spelling (.closes kind) (['{', '%'] ++ (a ++ (kind.endWord ++ (b ++ ['%', '}']))))

end Marker

theorem isPathChar_of_isBlank {c : Char} (h : isBlank c = true) : isPathChar c = false := by
  have point : (c == '.') = false := by
    by_contra hc
    simp only [Bool.not_eq_false, beq_iff_eq] at hc
    subst hc
    exact absurd h (by decide)
  simp [isPathChar, isWord_of_isBlank h, point]

theorem stops_path {w : Text} (blank : Blank w) {c : Char} (bracket : isPathChar c = false)
    (s : Text) : Stops isPathChar (w ++ c :: s) :=
  stops_append (fun x hx => isPathChar_of_isBlank (blank x hx)) (stops_cons.mpr bracket)

theorem stops_name {w : Text} (gap : Gap w) (s : Text) : Stops isWord (w ++ s) :=
  stops_append_of_ne_nil gap.1 (fun x hx => isWord_of_isBlank (gap.2 x hx)) s

theorem stops_blank {test : Char → Bool} {x : Text} (nonempty : x ≠ [])
    (all : ∀ c ∈ x, test c = true) (solid : ∀ c, isBlank c = true → test c = false) (s : Text) :
    Stops isBlank (x ++ s) := by
  apply stops_append_of_ne_nil nonempty
  intro c hc
  by_contra blank
  have impossible := solid c (by simpa using blank)
  rw [all c hc] at impossible
  cases impossible

theorem stops_keyword {word : Text} (solid : (word.head?.any fun c => !isBlank c) = true)
    (s : Text) : Stops isBlank (word ++ s) := by
  cases word with
  | nil => cases solid
  | cons c word => exact stops_cons.mpr (by simpa using solid)

theorem IsPath.stops_blank {path : Text} (h : IsPath path) (s : Text) :
    Stops isBlank (path ++ s) :=
  Template.stops_blank h.1 h.2 (fun _ => isPathChar_of_isBlank) s

theorem IsName.stops_blank {name : Text} (h : IsName name) (s : Text) :
    Stops isBlank (name ++ s) :=
  Template.stops_blank h.1 h.2 (fun _ => isWord_of_isBlank) s

namespace Marker

theorem tagEnd?_eq_some_iff {s r : Text} :
    tagEnd? s = some r ↔ ∃ w, Blank w ∧ s = w ++ (['%', '}'] ++ r) := by
  unfold tagEnd?
  rw [dropPrefix?_eq_some]
  constructor
  · intro h
    obtain ⟨w, blank, same⟩ := exists_blank_append_stripLeft s
    exact ⟨w, blank, by rw [same, h]⟩
  · rintro ⟨w, blank, rfl⟩
    exact stripLeft_append blank (stops_cons.mpr (by decide))

theorem readSlot?_eq_some_iff {s r : Text} {m : Marker} :
    readSlot? s = some (m, r) ↔
      ∃ path w, IsPath path ∧ Blank w ∧ m = .slot path ∧ s = path ++ (w ++ (['}', '}'] ++ r)) := by
  simp only [readSlot?, Option.bind_eq_bind, Option.bind_eq_some_iff, Option.pure_def,
    Prod.exists, dropPrefix?_eq_some, run?_eq_some_iff]
  constructor
  · rintro ⟨path, a, ⟨rfl, nonempty, all, _⟩, t, bracket, out⟩
    cases out
    obtain ⟨w, blank, same⟩ := exists_blank_append_stripLeft a
    exact ⟨path, w, ⟨nonempty, all⟩, blank, rfl, by rw [same, bracket]⟩
  · rintro ⟨path, w, isPath, blank, rfl, rfl⟩
    refine ⟨path, _, ⟨rfl, isPath.1, isPath.2, ?_⟩, r, ?_, rfl⟩
    · exact stops_path blank (by decide) _
    · exact stripLeft_append blank (stops_cons.mpr (by decide))

theorem readEnd?_eq_some_iff {word s r : Text} {kind : BlockKind} {m : Marker} :
    readEnd? word kind s = some (m, r) ↔
      ∃ w, Blank w ∧ m = .closes kind ∧ s = word ++ (w ++ (['%', '}'] ++ r)) := by
  simp only [readEnd?, Option.bind_eq_bind, Option.bind_eq_some_iff, Option.pure_def,
    dropPrefix?_eq_some, tagEnd?_eq_some_iff]
  constructor
  · rintro ⟨a, rfl, t, ⟨w, blank, rfl⟩, out⟩
    cases out
    exact ⟨w, blank, rfl, rfl⟩
  · rintro ⟨w, blank, rfl, rfl⟩
    exact ⟨_, rfl, r, ⟨w, blank, rfl⟩, rfl⟩

theorem readEnd?_append (word : Text) (kind : BlockKind) {w : Text} (blank : Blank w) (r : Text) :
    readEnd? word kind (word ++ (w ++ (['%', '}'] ++ r))) = some (.closes kind, r) :=
  readEnd?_eq_some_iff.mpr ⟨w, blank, rfl, rfl⟩

theorem readCondition?_eq_some_iff {s r : Text} {m : Marker} :
    readCondition? s = some (m, r) ↔
      ∃ b path c, Gap b ∧ IsPath path ∧ Blank c ∧ m = .opens (.condition path) ∧
        s = "if".toList ++ (b ++ (path ++ (c ++ (['%', '}'] ++ r)))) := by
  simp only [readCondition?, Option.bind_eq_bind, Option.bind_eq_some_iff, Option.pure_def,
    Prod.exists, dropPrefix?_eq_some, run?_eq_some_iff, tagEnd?_eq_some_iff]
  constructor
  · rintro ⟨_, rfl, b, _, ⟨rfl, hb, blank, _⟩, path, _, ⟨rfl, hp, all, _⟩, t, ⟨c, hc, rfl⟩, out⟩
    cases out
    exact ⟨b, path, c, ⟨hb, blank⟩, ⟨hp, all⟩, hc, rfl, rfl⟩
  · rintro ⟨b, path, c, gap, isPath, blank, rfl, rfl⟩
    exact ⟨_, rfl, b, _, ⟨rfl, gap.1, gap.2, isPath.stops_blank _⟩, path, _,
      ⟨rfl, isPath.1, isPath.2, stops_path blank (by decide) _⟩, r, ⟨c, blank, rfl⟩, rfl⟩

theorem readLoop?_eq_some_iff {s r : Text} {m : Marker} :
    readLoop? s = some (m, r) ↔
      ∃ b name c d path e, Gap b ∧ IsName name ∧ Gap c ∧ Gap d ∧ IsPath path ∧ Blank e ∧
        m = .opens (.loop name path) ∧
        s = "for".toList ++ (b ++ (name ++ (c ++ ("in".toList ++
          (d ++ (path ++ (e ++ (['%', '}'] ++ r)))))))) := by
  simp only [readLoop?, Option.bind_eq_bind, Option.bind_eq_some_iff, Option.pure_def,
    Prod.exists, dropPrefix?_eq_some, run?_eq_some_iff, tagEnd?_eq_some_iff]
  constructor
  · rintro ⟨_, rfl, b, _, ⟨rfl, hb, blankB, _⟩, name, _, ⟨rfl, hn, word, _⟩, c, _,
      ⟨rfl, hc, blankC, _⟩, _, rfl, d, _, ⟨rfl, hd, blankD, _⟩, path, _, ⟨rfl, hp, all, _⟩, t,
      ⟨e, blankE, rfl⟩, out⟩
    cases out
    exact ⟨b, name, c, d, path, e, ⟨hb, blankB⟩, ⟨hn, word⟩, ⟨hc, blankC⟩, ⟨hd, blankD⟩,
      ⟨hp, all⟩, blankE, rfl, rfl⟩
  · rintro ⟨b, name, c, d, path, e, gapB, isName, gapC, gapD, isPath, blankE, rfl, rfl⟩
    exact ⟨_, rfl, b, _, ⟨rfl, gapB.1, gapB.2, isName.stops_blank _⟩, name, _,
      ⟨rfl, isName.1, isName.2, stops_name gapC _⟩, c, _,
      ⟨rfl, gapC.1, gapC.2, stops_cons.mpr (by decide)⟩, _, rfl, d, _,
      ⟨rfl, gapD.1, gapD.2, isPath.stops_blank _⟩, path, _,
      ⟨rfl, isPath.1, isPath.2, stops_path blankE (by decide) _⟩, r, ⟨e, blankE, rfl⟩, rfl⟩

theorem read?_slot (s : Text) : read? (['{', '{'] ++ s) = readSlot? (stripLeft s) := rfl

theorem read?_tag (s : Text) :
    read? (['{', '%'] ++ s) =
      (readLoop? (stripLeft s)).or ((readEnd? "endfor".toList .loop (stripLeft s)).or
        ((readCondition? (stripLeft s)).or (readEnd? "endif".toList .condition (stripLeft s)))) :=
  rfl

theorem spelling_of_read? {s r : Text} {m : Marker} (h : read? s = some (m, r)) :
    ∃ spelled, m.WellFormed ∧ Spelling m spelled ∧ s = spelled ++ r := by
  unfold read? at h
  split at h
  · rename_i s
    obtain ⟨a, blank, front⟩ := exists_blank_append_stripLeft s
    obtain ⟨path, w, isPath, blankW, rfl, same⟩ := readSlot?_eq_some_iff.mp h
    refine ⟨_, isPath, .slot blank blankW, ?_⟩
    rw [front, same]
    simp only [List.cons_append, List.append_assoc, List.nil_append]
  · rename_i s
    obtain ⟨a, blank, front⟩ := exists_blank_append_stripLeft s
    simp only [Option.or_eq_some_iff] at h
    rcases h with h | ⟨_, h | ⟨_, h | ⟨_, h⟩⟩⟩
    · obtain ⟨b, name, c, d, path, e, gapB, isName, gapC, gapD, isPath, blankE, rfl, same⟩ :=
        readLoop?_eq_some_iff.mp h
      refine ⟨_, ⟨isName, isPath⟩, .loop blank gapB gapC gapD blankE, ?_⟩
      rw [front, same]
      simp only [List.cons_append, List.append_assoc, List.nil_append]
    · obtain ⟨w, blankW, rfl, same⟩ := readEnd?_eq_some_iff.mp h
      refine ⟨_, trivial, .closes blank blankW, ?_⟩
      rw [front, same]
      simp only [BlockKind.endWord_loop, List.cons_append, List.append_assoc, List.nil_append]
    · obtain ⟨b, path, c, gap, isPath, blankC, rfl, same⟩ := readCondition?_eq_some_iff.mp h
      refine ⟨_, isPath, .condition blank gap blankC, ?_⟩
      rw [front, same]
      simp only [List.cons_append, List.append_assoc, List.nil_append]
    · obtain ⟨w, blankW, rfl, same⟩ := readEnd?_eq_some_iff.mp h
      refine ⟨_, trivial, .closes blank blankW, ?_⟩
      rw [front, same]
      simp only [BlockKind.endWord_condition, List.cons_append, List.append_assoc, List.nil_append]
  · contradiction

/-- Every spelling is read as its marker, whatever follows. The four kinds of tag differ in their
first word, so no earlier reader takes the text of a later one. -/
theorem read?_of_spelling {m : Marker} {spelled : Text} (wellFormed : m.WellFormed)
    (spelling : Spelling m spelled) (r : Text) : read? (spelled ++ r) = some (m, r) := by
  cases spelling with
  | @slot path a b blankA blankB =>
    simp only [List.append_assoc]
    rw [read?_slot, stripLeft_append blankA (IsPath.stops_blank wellFormed _)]
    exact readSlot?_eq_some_iff.mpr ⟨path, b, wellFormed, blankB, rfl, rfl⟩
  | @loop name path a b c d e blankA gapB gapC gapD blankE =>
    simp only [List.append_assoc]
    rw [read?_tag, stripLeft_append blankA (stops_keyword (by decide) _)]
    have first := (readLoop?_eq_some_iff (r := r)).mpr ⟨b, name, c, d, path, e, gapB,
      wellFormed.1, gapC, gapD, wellFormed.2, blankE, rfl, rfl⟩
    rw [first, Option.some_or]
  | @condition path a b c blankA gapB blankC =>
    simp only [List.append_assoc]
    rw [read?_tag, stripLeft_append blankA (stops_keyword (by decide) _)]
    have third := (readCondition?_eq_some_iff (r := r)).mpr
      ⟨b, path, c, gapB, wellFormed, blankC, rfl, rfl⟩
    have noLoop (x : Text) : readLoop? ("if".toList ++ x) = none := rfl
    have noEnd (x : Text) : readEnd? "endfor".toList .loop ("if".toList ++ x) = none := rfl
    rw [noLoop, noEnd, third, Option.none_or, Option.none_or, Option.some_or]
  | @closes kind a b blankA blankB =>
    cases kind with
    | loop =>
      simp only [List.append_assoc, BlockKind.endWord_loop]
      rw [read?_tag, stripLeft_append blankA (stops_keyword (by decide) _)]
      have second := readEnd?_append "endfor".toList .loop blankB r
      have noLoop (x : Text) : readLoop? ("endfor".toList ++ x) = none := rfl
      rw [noLoop, Option.none_or, second, Option.some_or]
    | condition =>
      simp only [List.append_assoc, BlockKind.endWord_condition]
      rw [read?_tag, stripLeft_append blankA (stops_keyword (by decide) _)]
      have last := readEnd?_append "endif".toList .condition blankB r
      have noLoop (x : Text) : readLoop? ("endif".toList ++ x) = none := rfl
      have noEnd (x : Text) : readEnd? "endfor".toList .loop ("endif".toList ++ x) = none := rfl
      have noIf (x : Text) : readCondition? ("endif".toList ++ x) = none := rfl
      rw [noLoop, noEnd, noIf, Option.none_or, Option.none_or, Option.none_or]
      exact last

/-- The reader takes exactly the spellings of well-formed markers. -/
theorem read?_eq_some_iff {s r : Text} {m : Marker} :
    read? s = some (m, r) ↔ ∃ spelled, m.WellFormed ∧ Spelling m spelled ∧ s = spelled ++ r := by
  constructor
  · exact spelling_of_read?
  · rintro ⟨spelled, wellFormed, spelling, rfl⟩
    exact read?_of_spelling wellFormed spelling r

end Marker

end Folio.Template
