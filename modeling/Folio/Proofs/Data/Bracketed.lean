import Folio.Proofs.Data.Dialect
import Folio.Proofs.Template.Meaning
import Folio.Proofs.Text.Splitting

/-! Sequences in square brackets, alone, as the value of a key and under a loop. They denote their
items for every number of items but none: brackets with nothing between them hold one empty item. -/
namespace Folio

namespace Template

open Value (resolve)

theorem renderNodes_loop {context : Fields} {name path : Text} {items : List Value}
    (found : resolve path context = .seq items) (body : List Node) :
    renderNodes context [.loop name path body] = items.zipIdx.flatMap fun (item, index) =>
      renderNodes (turnContext context name item index) body := by
  have unrolled : unrollAll context [.loop name path body] = items.zipIdx.map fun (item, index) =>
      .literal (renderNodes (turnContext context name item index) body) := by
    simp only [unrollAll, Node.unroll, found, List.append_nil]
    rfl
  rw [renderNodes, unrolled]
  exact fillAll_decideAll_literals context _ items.zipIdx

end Template

namespace Data

open Template (renderNodes turnContext)

/-- An item that brackets can hold among others. It may itself hold brackets and colons, and it may
be spelled like a numeral. -/
structure IsItem (s : Text) : Prop where
  trimmed : s.strip = s
  undivided : ',' ∉ s
  unbroken : '\n' ∉ s

structure IsKey (s : Text) : Prop where
  nonempty : s ≠ []
  trimmed : s.strip = s
  uncommented : s.head? ≠ some '#'
  undivided : ':' ∉ s
  unbroken : '\n' ∉ s

def bracketText (items : List Text) : Text := ['['] ++ Text.join [',', ' '] items ++ [']']

def entryText (key value : Text) : Text := key ++ ([':', ' '] ++ value)

def bracketEntry (key : Text) (items : List Text) : Text := entryText key (bracketText items)

/-- The pieces between the commas, of which there is always one. -/
def piecesHeld (items : List Text) : List Text := if items = [] then [[]] else items

/-- The items found in the brackets, by whatever way the sequence is read. -/
structure ReadAs (items found : List Text) : Prop where
  scalar : readScalar (bracketText items) = .seq (found.map .text)
  entry : ∀ key, IsKey key →
    readDialect (bracketEntry key items) = [(key, .seq (found.map .text))]
  loop : ∀ key, IsKey key → '.' ∉ key → ∀ name body,
    renderNodes (readDialect (bracketEntry key items)) [.loop name key body] =
      found.zipIdx.flatMap fun (item, index) =>
        renderNodes (turnContext (readDialect (bracketEntry key items)) name (.text item) index) body

section Entry

variable {key value : Text}

theorem readDialect_entry (isKey : IsKey key) (nonempty : value ≠ []) (trimmed : value.strip = value)
    (unbroken : '\n' ∉ value) : readDialect (entryText key value) = [(key, readScalar value)] := by
  have whole : '\n' ∉ entryText key value := by
    simp [entryText, isKey.unbroken, unbroken]
  have counts : Significant (entryText key value) := by
    refine ⟨?_, ?_, ?_⟩
    · exact Text.strip_between ⟨isKey.nonempty, isKey.trimmed⟩ ⟨nonempty, trimmed⟩ _
    · simp [entryText, isKey.nonempty]
    · simpa [entryText, List.head?_append_of_ne_nil _ isKey.nonempty] using isKey.uncommented
  have cut : Text.cutAt? ':' (entryText key value) = some (key, ' ' :: value) :=
    Text.cutAt?_eq_some_iff.mpr ⟨rfl, isKey.undivided⟩
  have line : Line.ofText (entryText key value) = .entry key value := by
    simp only [counts.ofText, cut, isKey.trimmed, Text.strip_cons_of_isBlank (c := ' ') rfl, trimmed]
  obtain ⟨c, rest, rfl⟩ := List.exists_cons_of_ne_nil nonempty
  simp only [readDialect, Text.splitOn_of_not_mem whole, List.map_cons, List.map_nil, line]
  rfl

theorem resolve_entry (undotted : '.' ∉ key) (value : Value) :
    Value.resolve key [(key, value)] = value := by
  simp [Value.resolve, Text.splitOn_of_not_mem undotted, Value.follow, Members.get?]

end Entry

section Brackets

variable {items : List Text}

theorem readScalar_bracketText (items : List Text) : readScalar (bracketText items) =
    .seq (((Text.splitOn ',' (Text.join [',', ' '] items)).map Text.strip).map .text) := by
  have inside : bracketed? (bracketText items) = some (Text.join [',', ' '] items) := by
    simp [bracketText, bracketed?]
  simp only [readScalar, inside, List.map_map]
  rfl

/-- Cutting at the commas undoes the joining, but it always finds a piece. -/
theorem map_strip_splitOn_join (each : ∀ item ∈ items, IsItem item) :
    (Text.splitOn ',' (Text.join [',', ' '] items)).map Text.strip = piecesHeld items := by
  induction items with
  | nil => rfl
  | cons item items ih =>
    obtain ⟨own, others⟩ := List.forall_mem_cons.mp each
    cases items with
    | nil =>
      simp [Text.join_singleton, Text.splitOn_of_not_mem own.undivided, own.trimmed, piecesHeld]
    | cons next items =>
      have joined : Text.join [',', ' '] (item :: next :: items) =
          item ++ ',' :: (' ' :: Text.join [',', ' '] (next :: items)) :=
        Text.join_cons_cons [',', ' '] item next items
      have rest : (Text.splitOn ',' (' ' :: Text.join [',', ' '] (next :: items))).map Text.strip =
          (Text.splitOn ',' (Text.join [',', ' '] (next :: items))).map Text.strip :=
        Text.map_strip_splitOn_cons rfl (by decide) _
      simp only [joined, Text.splitOn_append_cons_of_not_mem own.undivided, List.map_cons, rest,
        ih others, own.trimmed]
      rfl

theorem strip_bracketText (items : List Text) : (bracketText items).strip = bracketText items := by
  have bracket : Text.strip ['['] = ['['] ∧ Text.strip [']'] = [']'] := by decide
  simpa [bracketText] using Text.strip_between ⟨List.cons_ne_nil '[' [], bracket.1⟩
    ⟨List.cons_ne_nil ']' [], bracket.2⟩ (Text.join [',', ' '] items)

/-- What is found in the brackets, alone, behind a key and by a loop. -/
theorem readAs_piecesHeld (each : ∀ item ∈ items, IsItem item) :
    ReadAs items (piecesHeld items) := by
  have scalar : readScalar (bracketText items) = .seq ((piecesHeld items).map .text) := by
    rw [readScalar_bracketText, map_strip_splitOn_join each]
  have unbroken : '\n' ∉ bracketText items := by
    have inside : '\n' ∉ Text.join [',', ' '] items :=
      Text.not_mem_join (by decide) fun item member => (each item member).unbroken
    simp [bracketText, inside]
  have entry (key : Text) (isKey : IsKey key) : readDialect (bracketEntry key items) =
      [(key, .seq ((piecesHeld items).map .text))] := by
    have line := readDialect_entry isKey (by simp [bracketText]) (strip_bracketText items) unbroken
    rwa [scalar] at line
  refine ⟨scalar, entry, ?_⟩
  intro key isKey undotted name body
  have found : Value.resolve key (readDialect (bracketEntry key items)) =
      .seq ((piecesHeld items).map .text) := by
    simp only [entry key isKey, resolve_entry undotted]
  simp only [Template.renderNodes_loop found, List.zipIdx_map, List.flatMap_map]
  rfl

theorem ReadAs.unique {found other : List Text} (h : ReadAs items found) (h' : ReadAs items other) :
    found = other := by
  have same : found.map Tree.text = other.map Tree.text :=
    Tree.seq.inj (h.scalar.symm.trans h'.scalar)
  exact (List.map_inj_right fun _ _ => Tree.text.inj).mp same

/-- A sequence in brackets denotes its items exactly if it has any. -/
theorem readAs_self_iff (each : ∀ item ∈ items, IsItem item) :
    (ReadAs items items ↔ items ≠ []) ∧ (items = [] → ReadAs items [[]]) := by
  have found := readAs_piecesHeld each
  by_cases empty : items = []
  · rw [piecesHeld, if_pos empty] at found
    refine ⟨iff_of_false (fun self => ?_) (not_not_intro empty), fun _ => found⟩
    have both := self.unique found
    rw [empty] at both
    cases both
  · rw [piecesHeld, if_neg empty] at found
    exact ⟨iff_of_true found empty, fun none => absurd none empty⟩

/-- Items that hold brackets, a colon and a dash or are spelled like other values, behind a key that
starts with a dash. -/
theorem readAs_self_iff_awkward :
    let items := ["[a]", "]", "x: y", "1", "true", "- b\rc", "#"].map String.toList
    (∀ item ∈ items, IsItem item) ∧ items ≠ [] ∧ IsKey "- k [".toList ∧ ReadAs items items := by
  intro items
  have each : ∀ item ∈ items, IsItem item := by
    have checked : ∀ item ∈ items, Text.strip item = item ∧ ',' ∉ item ∧ '\n' ∉ item := by
      decide +kernel
    intro item member
    obtain ⟨trimmed, undivided, unbroken⟩ := checked item member
    exact ⟨trimmed, undivided, unbroken⟩
  have key : IsKey "- k [".toList := by constructor <;> decide +kernel
  have filled : items ≠ [] := by decide
  exact ⟨each, filled, key, (readAs_self_iff each).1.mpr filled⟩

/-- Brackets with nothing between them, which should denote no items. -/
theorem not_readAs_empty :
    bracketText [] = "[]".toList ∧ readScalar "[]".toList = .seq [.text []] ∧ ¬ ReadAs [] [] := by
  refine ⟨rfl, rfl, fun nothing => ?_⟩
  have items : Tree.seq [.text []] = .seq [] := nothing.scalar
  cases items

end Brackets

end Data

end Folio
