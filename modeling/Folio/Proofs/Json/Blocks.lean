import Folio.Json.Read
import Folio.Proofs.Json.Strings
import Folio.Proofs.Text.Splitting

/-! Arrays and objects are read back from their blocks of lines. -/
namespace Folio

namespace Members

variable {τ : Type} [DecidableEq τ]

theorem set_of_not_mem {name : τ} {fields : Members τ} (new : name ∉ fields.map Prod.fst)
    (value : Tree τ) : fields.set name value = fields ++ [(name, value)] := by
  induction fields with
  | nil => rfl
  | cons field fields ih =>
    have other : field.1 ≠ name := fun same => new (by simp [same])
    have later := ih fun member => new (List.mem_cons_of_mem _ member)
    rw [set, if_neg other, later, List.cons_append]

theorem foldl_set {ι : Type} {name : ι → τ} {value : ι → Tree τ} {xs : List ι}
    {fields : Members τ} (distinct : (fields.map Prod.fst ++ xs.map name).Nodup) :
    xs.foldl (fun (fields : Members τ) x => fields.set (name x) (value x)) fields =
      fields ++ xs.map fun x => (name x, value x) := by
  induction xs generalizing fields with
  | nil => simp
  | cons x xs ih =>
    have new : name x ∉ fields.map Prod.fst := by
      intro old
      exact (List.nodup_append.mp distinct).2.2 _ old _ (by simp) rfl
    rw [List.foldl_cons, set_of_not_mem new, ih (by simpa using distinct)]
    simp

end Members

namespace Json

open Text (join join_singleton join_cons_cons Stops stops_cons)

/-- The text begins a string, an array or an object. -/
def Opens (s : Text) : Prop := ∃ c ∈ s.head?, c = '"' ∨ c = '[' ∨ c = '\x7b'

/-- A reader takes exactly the written text, whatever follows it. -/
structure Spells (read : Text → Reading WideValue) (written : Text) (value : WideValue) : Prop where
  reads : ∀ rest, read (written ++ rest) = .ok (value, rest)
  opens : Opens written

section Layout

theorem opens_cons {c : Char} {s : Text} : Opens (c :: s) ↔ c = '"' ∨ c = '[' ∨ c = '\x7b' := by
  simp [Opens]

theorem Opens.exists_cons {s : Text} (opens : Opens s) :
    ∃ c t, s = c :: t ∧ (c = '"' ∨ c = '[' ∨ c = '\x7b') := by
  cases s with
  | nil => simp [Opens] at opens
  | cons c t => exact ⟨c, t, rfl, opens_cons.mp opens⟩

theorem Opens.ne_nil {s : Text} (opens : Opens s) : s ≠ [] := by
  obtain ⟨c, t, rfl, -⟩ := opens.exists_cons
  exact List.cons_ne_nil c t

theorem Opens.append {s : Text} (opens : Opens s) (t : Text) : Opens (s ++ t) := by
  obtain ⟨c, u, rfl, opening⟩ := opens.exists_cons
  exact opens_cons.mpr opening

theorem opens_join (separator : Text) {xs : List Text} (nonempty : xs ≠ [])
    (opens : ∀ x ∈ xs, Opens x) : Opens (join separator xs) := by
  cases xs with
  | nil => exact absurd rfl nonempty
  | cons x xs =>
    have first := opens x List.mem_cons_self
    cases xs with
    | nil => exact (join_singleton separator x).symm ▸ first
    | cons y ys => exact (join_cons_cons separator x y ys).symm ▸ first.append _

theorem skipBlank_of_not_blank {c : Char} (visible : isBlank c = false) (s : Text) :
    skipBlank (c :: s) = c :: s := by
  simp [skipBlank, visible]

theorem skipBlank_newline (level : Nat) {s : Text} (stops : Stops isBlank s) :
    skipBlank (newline level ++ s) = s := by
  refine Text.dropWhile_append_of_stops ?_ stops
  intro c member
  obtain rfl | ⟨-, rfl⟩ := by simpa [newline] using member
  · rfl
  · rfl

theorem Opens.stops {s : Text} (opens : Opens s) : Stops isBlank s := by
  obtain ⟨c, t, rfl, opening⟩ := opens.exists_cons
  refine stops_cons.mpr ?_
  rcases opening with rfl | rfl | rfl <;> rfl

theorem skipBlank_space {s : Text} (opens : Opens s) : skipBlank (' ' :: s) = s := by
  have space : ∀ c ∈ [' '], isBlank c = true := by simp [isBlank]
  exact Text.dropWhile_append_of_stops space opens.stops

/-- A reader that takes one item a step needs no more steps than there are characters. -/
theorem length_le_length_join (separator : Text) {xs : List Text} (opens : ∀ x ∈ xs, Opens x) :
    xs.length ≤ (join separator xs).length := by
  induction xs with
  | nil => simp
  | cons x xs ih =>
    have first : 1 ≤ x.length := List.length_pos_iff.mpr (opens x List.mem_cons_self).ne_nil
    cases xs with
    | nil => simpa [join_singleton] using first
    | cons y ys =>
      have later := ih fun z member => opens z (List.mem_cons_of_mem x member)
      simp only [join_cons_cons, List.length_append, List.length_cons] at later ⊢
      omega

end Layout

section Items

variable {item : Text → Reading WideValue} {written : Text} {value : WideValue}

theorem readItems_last (spells : Spells item written value) (outer bound : Nat) (rest : Text) :
    readItems item (bound + 1) (written ++ (newline outer ++ ']' :: rest)) =
      .ok ([value], rest) := by
  have bracket := skipBlank_newline outer (s := ']' :: rest) (stops_cons.mpr rfl)
  rw [readItems, spells.reads]
  simp only [bracket]

theorem readItems_next (spells : Spells item written value) (inner bound : Nat) {s : Text}
    (opens : Opens s) :
    readItems item (bound + 1) (written ++ (',' :: newline inner ++ s)) =
      (readItems item bound s).map fun (values, rest) => (value :: values, rest) := by
  have comma := skipBlank_of_not_blank (c := ',') rfl (newline inner ++ s)
  rw [readItems, spells.reads]
  simp only [List.cons_append, comma, skipBlank_newline inner opens.stops]

variable {ι : Type} {text : ι → Text} {denoted : ι → WideValue}

theorem readItems_join {xs : List ι} (nonempty : xs ≠ [])
    (spells : ∀ x ∈ xs, Spells item (text x) (denoted x)) (inner outer : Nat) (rest : Text)
    {bound : Nat} (enough : xs.length ≤ bound) :
    readItems item bound
      (join (',' :: newline inner) (xs.map text) ++ (newline outer ++ ']' :: rest)) =
        .ok (xs.map denoted, rest) := by
  induction xs generalizing bound with
  | nil => exact absurd rfl nonempty
  | cons x xs ih =>
    have first := spells x List.mem_cons_self
    obtain ⟨bound, rfl⟩ : ∃ fewer, bound = fewer + 1 :=
      Nat.exists_eq_add_one.mpr (Nat.lt_of_lt_of_le (Nat.zero_lt_succ xs.length) enough)
    cases xs with
    | nil =>
      rw [List.map_singleton, join_singleton]
      exact readItems_last first outer bound rest
    | cons y ys =>
      have others := fun z member => spells z (List.mem_cons_of_mem x member)
      have later := ih (List.cons_ne_nil y ys) others (Nat.le_of_succ_le_succ enough)
      have opens : Opens (join (',' :: newline inner) ((y :: ys).map text)) :=
        opens_join _ (by simp) (List.forall_mem_map.mpr fun z member => (others z member).opens)
      rw [List.map_cons] at later opens
      rw [List.map_cons, List.map_cons, join_cons_cons, List.append_assoc, List.append_assoc,
        readItems_next first inner bound (opens.append _), later]
      rfl

end Items

section Members

variable {item : Text → Reading WideValue} {written : WideText} {value : WideValue}

theorem replaced_writeMember_append (name : Text) (written : WideText) (s : Text) :
    (writeMember name written).replaced ++ s =
      '"' :: (name.flatMap escapeChar ++ '"' :: (':' :: ' ' :: (written.replaced ++ s))) := by
  rw [writeMember, WideText.replaced_append, WideText.replaced_append, replaced_writeString,
    WideText.replaced_wide, WideText.replaced_wide]
  simp

theorem opens_writeMember (name : Text) (written : WideText) :
    Opens (writeMember name written).replaced := by
  have shape := replaced_writeMember_append name written []
  rw [List.append_nil] at shape
  exact shape ▸ opens_cons.mpr (.inl rfl)

theorem readMembers_last (spells : Spells item written.replaced value) (name : Text)
    (fields : Members WideText) (outer bound : Nat) (rest : Text) :
    readMembers item (bound + 1) fields
      ((writeMember name written).replaced ++ (newline outer ++ '\x7d' :: rest)) =
        .ok (fields.set name.wide value, rest) := by
  have brace := skipBlank_newline outer (s := '\x7d' :: rest) (stops_cons.mpr rfl)
  have colon (s : Text) := skipBlank_of_not_blank (c := ':') rfl s
  rw [replaced_writeMember_append, readMembers, readString_escaped]
  simp only [colon, skipBlank_space (spells.opens.append _), spells.reads, brace]

theorem readMembers_next (spells : Spells item written.replaced value) (name : Text)
    (fields : Members WideText) (inner bound : Nat) {s : Text} (opens : Opens s) :
    readMembers item (bound + 1) fields
      ((writeMember name written).replaced ++ (',' :: newline inner ++ s)) =
        readMembers item bound (fields.set name.wide value) s := by
  have comma := skipBlank_of_not_blank (c := ',') rfl (newline inner ++ s)
  have colon (s : Text) := skipBlank_of_not_blank (c := ':') rfl s
  rw [replaced_writeMember_append, readMembers, readString_escaped]
  simp only [colon, skipBlank_space (spells.opens.append _), spells.reads, List.cons_append,
    comma, skipBlank_newline inner opens.stops]

variable {ι : Type} {name : ι → Text} {text : ι → WideText} {denoted : ι → WideValue}

theorem readMembers_join {xs : List ι} (nonempty : xs ≠ [])
    (spells : ∀ x ∈ xs, Spells item (text x).replaced (denoted x)) (inner outer : Nat)
    (rest : Text) (fields : Members WideText) {bound : Nat} (enough : xs.length ≤ bound) :
    readMembers item bound fields
      (join (',' :: newline inner) (xs.map fun x => (writeMember (name x) (text x)).replaced) ++
        (newline outer ++ '}' :: rest)) =
      .ok (xs.foldl (fun (fields : Members WideText) x =>
        fields.set (name x).wide (denoted x)) fields, rest) := by
  induction xs generalizing bound fields with
  | nil => exact absurd rfl nonempty
  | cons x xs ih =>
    have first := spells x List.mem_cons_self
    obtain ⟨bound, rfl⟩ : ∃ fewer, bound = fewer + 1 :=
      Nat.exists_eq_add_one.mpr (Nat.lt_of_lt_of_le (Nat.zero_lt_succ xs.length) enough)
    cases xs with
    | nil =>
      rw [List.map_singleton, join_singleton]
      exact readMembers_last first (name x) fields outer bound rest
    | cons y ys =>
      have others := fun z member => spells z (List.mem_cons_of_mem x member)
      have later := ih (List.cons_ne_nil y ys) others (fields.set (name x).wide (denoted x))
        (Nat.le_of_succ_le_succ enough)
      have opens : Opens
          (join (',' :: newline inner)
            ((y :: ys).map fun x => (writeMember (name x) (text x)).replaced)) :=
        opens_join _ (by simp) (List.forall_mem_map.mpr fun z _ => opens_writeMember _ _)
      rw [List.map_cons] at later opens
      rw [List.map_cons, List.map_cons, join_cons_cons, List.append_assoc, List.append_assoc,
        readMembers_next first (name x) fields inner bound (opens.append _), later]
      rfl

end Members

section Values

theorem spells_string (depth : Nat) {s : WideText} (whole : s.Whole) :
    Spells (readValue depth) (writeString s).replaced (.text s) := by
  have written := replaced_writeString s
  refine ⟨fun rest => ?_, written ▸ opens_cons.mpr (.inl rfl)⟩
  have quoted : (writeString s).replaced ++ rest =
      '"' :: (s.replaced.flatMap escapeChar ++ '"' :: rest) := by simp [written]
  have leaf : readLeaf ((writeString s).replaced ++ rest) = .ok (.text s, rest) := by
    rw [quoted, readLeaf, readString_escaped, WideText.wide_replaced whole]
    rfl
  rw [quoted] at leaf ⊢
  cases depth with
  | zero => exact leaf
  | succ depth => exact leaf

theorem replaced_intercalate (separator : Text) (items : List WideText) :
    WideText.replaced (List.intercalate separator.wide items) =
      join separator (items.map WideText.replaced) := by
  induction items with
  | nil => rfl
  | cons x xs ih =>
    cases xs with
    | nil => simp [join_singleton]
    | cons y ys =>
      rw [List.intercalate_cons_cons, WideText.replaced_append, WideText.replaced_append, ih,
        WideText.replaced_wide, List.map_cons, List.map_cons, List.map_cons, join_cons_cons,
        List.append_assoc]

theorem replaced_writeBlock_append (opening closing : Char) (level : Nat) {items : List WideText}
    (nonempty : items ≠ []) (rest : Text) :
    (writeBlock opening closing level items).replaced ++ rest =
      opening :: (newline (level + 1) ++
        (join (',' :: newline (level + 1)) (items.map WideText.replaced) ++
          (newline level ++ closing :: rest))) := by
  have filled : items.isEmpty = false := List.isEmpty_eq_false_iff.mpr nonempty
  simp only [writeBlock, filled, Bool.false_eq_true, if_false, WideText.replaced_append,
    WideText.replaced_wide, replaced_intercalate, List.cons_append, List.append_assoc,
    List.nil_append]

theorem readArray_newline {item : Text → Reading WideValue} (level : Nat) {s : Text}
    (opens : Opens s) :
    readArray item (newline level ++ s) =
      (readItems item (s.length + 1) s).map fun (values, rest) => (.seq values, rest) := by
  have skipped := skipBlank_newline level opens.stops
  obtain ⟨c, t, rfl, opening⟩ := opens.exists_cons
  have open_ : c ≠ ']' := by
    rintro rfl
    simp at opening
  rw [readArray, skipped]
  simp [open_]

theorem readObject_newline {item : Text → Reading WideValue} (level : Nat) {s : Text}
    (opens : Opens s) :
    readObject item (newline level ++ s) =
      (readMembers item (s.length + 1) [] s).map fun (fields, rest) => (.map fields, rest) := by
  have skipped := skipBlank_newline level opens.stops
  obtain ⟨c, t, rfl, opening⟩ := opens.exists_cons
  have open_ : c ≠ '\x7d' := by
    rintro rfl
    simp at opening
  rw [readObject, skipped]
  simp [open_]

variable {ι : Type} (xs : List ι) (name : ι → Text) (text : ι → WideText)
  (denoted : ι → WideValue) {depth : Nat}

theorem opens_writeBlock {opening : Char} (known : opening = '[' ∨ opening = '\x7b')
    (closing : Char) (level : Nat) (items : List WideText) :
    Opens (writeBlock opening closing level items).replaced := by
  by_cases empty : items = []
  · subst empty
    exact opens_cons.mpr (.inr known)
  · have shape := replaced_writeBlock_append opening closing level empty []
    rw [List.append_nil] at shape
    exact shape ▸ opens_cons.mpr (.inr known)

theorem spells_array (level : Nat)
    (spells : ∀ x ∈ xs, Spells (readValue depth) (text x).replaced (denoted x)) :
    Spells (readValue (depth + 1)) (writeBlock '[' ']' level (xs.map text)).replaced
      (.seq (xs.map denoted)) := by
  refine ⟨fun rest => ?_, opens_writeBlock (by simp) _ _ _⟩
  by_cases empty : xs = []
  · subst empty
    rfl
  have nonempty : xs.map text ≠ [] := by simpa using empty
  have filled : ∀ s ∈ (xs.map text).map WideText.replaced, Opens s :=
    List.forall_mem_map.mpr (List.forall_mem_map.mpr fun x member => (spells x member).opens)
  have opens := opens_join (',' :: newline (level + 1)) (by simpa using nonempty) filled
  have enough := length_le_length_join (',' :: newline (level + 1)) filled
  rw [replaced_writeBlock_append _ _ level nonempty, readValue, readArray_newline _ (opens.append _),
    List.map_map, Function.comp_def, readItems_join empty spells]
  · rfl
  · simp only [List.length_map, List.map_map, Function.comp_def, List.length_append] at enough ⊢
    omega

theorem spells_object (level : Nat) (distinct : (xs.map name).Nodup)
    (spells : ∀ x ∈ xs, Spells (readValue depth) (text x).replaced (denoted x)) :
    Spells (readValue (depth + 1))
      (writeBlock '\x7b' '\x7d' level (xs.map fun x => writeMember (name x) (text x))).replaced
      (.map (xs.map fun x => ((name x).wide, denoted x))) := by
  refine ⟨fun rest => ?_, opens_writeBlock (by simp) _ _ _⟩
  by_cases empty : xs = []
  · subst empty
    rfl
  have nonempty : (xs.map fun x => writeMember (name x) (text x)) ≠ [] := by simpa using empty
  have filled : ∀ s ∈ (xs.map fun x => writeMember (name x) (text x)).map WideText.replaced,
      Opens s :=
    List.forall_mem_map.mpr (List.forall_mem_map.mpr fun x _ => opens_writeMember (name x) (text x))
  have opens := opens_join (',' :: newline (level + 1)) (by simpa using nonempty) filled
  have enough := length_le_length_join (',' :: newline (level + 1)) filled
  have apart : ((xs.map name).map Text.wide).Nodup :=
    List.Pairwise.map Text.wide (fun _ _ => mt Text.wide_inj.mp) distinct
  rw [replaced_writeBlock_append _ _ level nonempty, readValue,
    readObject_newline _ (opens.append _), List.map_map, Function.comp_def,
    readMembers_join empty spells,
    Members.foldl_set (by simpa [Function.comp_def] using apart)]
  · rfl
  · simp only [List.length_map, List.map_map, Function.comp_def, List.length_append] at enough ⊢
    omega

end Values

section Documents

theorem read_of_spells {depth : Nat} {written : Text} {value : WideValue}
    (spells : Spells (readValue depth) written value) : read depth written = .ok value := by
  have whole := spells.reads []
  rw [List.append_nil] at whole
  obtain ⟨c, t, rfl, opening⟩ := spells.opens.exists_cons
  have visible : isBlank c = false := stops_cons.mp spells.opens.stops
  rw [read]
  · rw [skipBlank_of_not_blank visible, whole]
    rfl
  · intro rest same
    obtain rfl := (List.cons.inj same).1
    simp at opening

theorem not_allBlank_of_opens {s : Text} (opens : Opens s) : Text.allBlank s = false := by
  obtain ⟨c, t, rfl, opening⟩ := opens.exists_cons
  have visible : Text.isBlank c = false := by rcases opening with rfl | rfl | rfl <;> rfl
  simp [Text.allBlank, visible]

theorem whole_intercalate (separator : Text) (items : List WideText) :
    WideText.Whole (List.intercalate separator.wide items) ↔ ∀ x ∈ items, x.Whole := by
  induction items with
  | nil => simp [WideText.Whole]
  | cons x xs ih =>
    cases xs with
    | nil => simp
    | cons y ys =>
      rw [List.intercalate_cons_cons, WideText.whole_append_iff, WideText.whole_append_iff, ih,
        List.forall_mem_cons]
      simp

theorem whole_writeBlock (opening closing : Char) (level : Nat) (items : List WideText) :
    (writeBlock opening closing level items).Whole ↔ ∀ x ∈ items, x.Whole := by
  by_cases empty : items = []
  · subst empty
    exact iff_of_true (WideText.whole_wide _) (List.forall_mem_nil _)
  · have filled : items.isEmpty = false := List.isEmpty_eq_false_iff.mpr empty
    simp only [writeBlock, filled, Bool.false_eq_true, if_false, WideText.whole_append_iff,
      WideText.whole_wide, whole_intercalate, true_and, and_true]

theorem whole_writeMember (name : Text) (written : WideText) :
    (writeMember name written).Whole ↔ written.Whole := by
  simp only [writeMember, WideText.whole_append_iff, whole_writeString, WideText.whole_wide,
    true_and]

theorem return_not_mem_writeBlock {opening closing : Char} (first : opening ≠ '\r')
    (last : closing ≠ '\r') (level : Nat) {items : List WideText}
    (free : ∀ x ∈ items, '\r' ∉ x.replaced) :
    '\r' ∉ (writeBlock opening closing level items).replaced := by
  have line (level : Nat) : '\r' ∉ newline level := by simp [newline]
  by_cases empty : items = []
  · subst empty
    simp [writeBlock, WideText.replaced, CodePoint.replaced, first.symm, last.symm]
  · have separator : '\r' ∉ ',' :: newline (level + 1) := by simp [line]
    have joined := Text.not_mem_join separator (List.forall_mem_map.mpr free)
    have shape := replaced_writeBlock_append opening closing level empty []
    rw [List.append_nil] at shape
    simp [shape, first.symm, last.symm, line, joined]

theorem return_not_mem_writeMember (name : Text) {written : WideText}
    (free : '\r' ∉ written.replaced) : '\r' ∉ (writeMember name written).replaced := by
  rw [writeMember, WideText.replaced_append, WideText.replaced_append, WideText.replaced_wide]
  simp [return_not_mem_writeString, free]

end Documents

end Json

end Folio
