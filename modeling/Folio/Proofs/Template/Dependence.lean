import Folio.Proofs.Template.Alike
import Folio.Proofs.Text.Splitting
import Folio.Template.Parse

/-! What a rendered template depends on: the values at the paths that the template refers to, and
nothing else in its context. -/
namespace Folio

namespace Value

/-- Values that no template tells apart: scalars that are shown alike and decide a condition alike,
sequences of such items, and mappings of such values, in whatever order. -/
inductive Equivalent : Value → Value → Prop
  | scalar {a b : Value} : a.isScalar = true → b.isScalar = true → a.display = b.display →
      a.isTrue = b.isTrue → Equivalent a b
  | seq {xs ys : List Value} : List.Forall₂ Equivalent xs ys → Equivalent (.seq xs) (.seq ys)
  | map {c d : Fields} :
      (∀ name, Option.Rel Equivalent (Members.get? name c) (Members.get? name d)) →
        Equivalent (.map c) (.map d)

namespace Equivalent

variable {a b : Value}

mutual

theorem refl (a : Value) : Equivalent a a := by
  cases a with
  | seq items => exact .seq (refl_items items)
  | map fields => exact .map fun name => refl_get? name fields
  | _ => exact .scalar rfl rfl rfl rfl

theorem refl_items (items : List Value) : List.Forall₂ Equivalent items items := by
  cases items with
  | nil => exact .nil
  | cons item items => exact .cons (refl item) (refl_items items)

theorem refl_get? (name : Text) (fields : List (Text × Value)) :
    Option.Rel Equivalent (Members.get? name fields) (Members.get? name fields) := by
  cases fields with
  | nil => exact .none
  | cons field fields =>
    obtain ⟨key, value⟩ := field
    rw [Members.get?]
    split
    · exact .some (refl value)
    · exact refl_get? name fields

end

theorem display_eq (same : Equivalent a b) : a.display = b.display := by
  cases same with
  | scalar _ _ shown _ => exact shown
  | seq _ => rfl
  | map _ => rfl

theorem isTrue_eq (same : Equivalent a b) : a.isTrue = b.isTrue := by
  cases same with
  | scalar _ _ _ decided => exact decided
  | seq _ => rfl
  | map _ => rfl

theorem items (same : Equivalent a b) : List.Forall₂ Equivalent a.items b.items := by
  cases same with
  | scalar first second _ _ =>
    rw [items_of_isScalar first, items_of_isScalar second]
    exact .nil
  | seq items => exact items
  | map _ => exact .nil

theorem congruent : Congruent Equivalent where
  emptyText := refl _
  get? same name := by
    cases same with
    | scalar first second _ _ =>
      rw [get?_of_isScalar first, get?_of_isScalar second]
      exact .none
    | seq _ => exact .none
    | map fields => exact fields name

end Equivalent

/-- The name in front of the first dot, or the whole path if it has none. -/
def firstName (path : Text) : Text := path.takeWhile (· != '.')

theorem exists_resolve_eq (path : Text) : ∃ names, ∀ context : Fields,
    resolve path context =
      ((Members.get? (firstName path) context).map (follow names)).getD (.text []) := by
  obtain ⟨names, pieces⟩ := Text.exists_splitOn_eq_cons '.' path
  exact ⟨names, fun context => by rw [resolve, pieces, follow_cons, get?, firstName]⟩

end Value

namespace Template

open Value (Equivalent resolve)

/-- The two contexts hold the same at each of the given paths. -/
def Agree (paths : List Text) (c d : Fields) : Prop :=
  ∀ path ∈ paths, Equivalent (resolve path c) (resolve path d)

section Turns

variable {paths : List Text} {c d : Fields}

def turnNumbers (index : Nat) : Value :=
  .map [("index".toList, .int index), ("index1".toList, .int (index + 1))]

theorem get?_turnContext (context : Fields) (name : Text) (item : Value) (index : Nat)
    (key : Text) : Members.get? key (turnContext context name item index) =
      if key = "loop".toList then some (turnNumbers index)
      else if key = name then some item
      else Members.get? key context := by
  unfold turnContext
  by_cases numbers : key = "loop".toList
  · subst numbers
    rw [if_pos rfl, Members.get?_set_self]
    rfl
  · rw [if_neg numbers, Members.get?_set_of_ne numbers]
    by_cases own : key = name
    · subst own
      rw [if_pos rfl, Members.get?_set_self]
    · rw [if_neg own, Members.get?_set_of_ne own]

/-- A path into a turn leads to the numbers, into the item, or out of the loop: as far as the two
contexts agree outside, they agree in the turn. -/
theorem Agree.turnContext (agree : Agree paths c d) (name : Text) {a b : Value}
    (items : Equivalent a b) (index : Nat) :
    Agree paths (turnContext c name a index) (turnContext d name b index) := by
  intro path member
  have outside := agree path member
  obtain ⟨names, resolved⟩ := Value.exists_resolve_eq path
  simp only [resolved, get?_turnContext] at outside ⊢
  generalize Value.firstName path = key at outside ⊢
  by_cases numbers : key = "loop".toList
  · simp only [if_pos numbers]
    exact Equivalent.refl _
  · by_cases own : key = name
    · simp only [if_neg numbers, if_pos own]
      exact Equivalent.congruent.follow items names
    · simpa only [if_neg numbers, if_neg own] using outside

end Turns

section Rendering

theorem flatMap_turns_eq {body : List Node} {paths : List Text}
    (inside : ∀ {c d : Fields}, Agree paths c d → meaningOf c body = meaningOf d body)
    {c d : Fields} (agree : Agree paths c d) (name : Text) {xs ys : List Value}
    (items : List.Forall₂ Equivalent xs ys) (start : Nat) :
    ((xs.zipIdx start).flatMap fun (item, index) =>
        meaningOf (turnContext c name item index) body) =
      (ys.zipIdx start).flatMap fun (item, index) =>
        meaningOf (turnContext d name item index) body := by
  induction items generalizing start with
  | nil => rfl
  | cons first _ ih =>
    simp only [List.zipIdx_cons, List.flatMap_cons]
    rw [inside (agree.turnContext name first start), ih (start + 1)]

mutual

theorem meaning_eq_of_agree (node : Node) {c d : Fields} (agree : Agree node.paths c d) :
    node.meaning c = node.meaning d := by
  cases node with
  | literal s => rfl
  | slot path => exact (agree path (List.mem_singleton.mpr rfl)).display_eq
  | loop name path body =>
    obtain ⟨own, inner⟩ := List.forall_mem_cons.mp agree
    -- the paths of the body are read in the turns, where the contexts agree on them as well
    rw [Node.meaning_loop, Node.meaning_loop]
    exact flatMap_turns_eq (meaningOf_eq_of_agree body) inner name own.items 0
  | condition path body =>
    obtain ⟨own, inner⟩ := List.forall_mem_cons.mp agree
    simp only [Node.meaning, own.isTrue_eq, meaningOf_eq_of_agree body inner]

theorem meaningOf_eq_of_agree (nodes : List Node) {c d : Fields} (agree : Agree (pathsOf nodes) c d) :
    meaningOf c nodes = meaningOf d nodes := by
  cases nodes with
  | nil => rfl
  | cons node nodes =>
    obtain ⟨first, rest⟩ := List.forall_mem_append.mp agree
    rw [meaningOf, meaningOf, meaning_eq_of_agree node first, meaningOf_eq_of_agree nodes rest]

end

theorem placeholders_eq_ok {template : Text} {paths : List Text}
    (found : placeholders template = .ok paths) :
    ∃ nodes, parse template = .ok nodes ∧ ∀ path, path ∈ paths ↔ path ∈ pathsOf nodes := by
  unfold placeholders at found
  cases parsed : parse template with
  | error imbalance =>
    rw [parsed] at found
    cases found
  | ok nodes =>
    rw [parsed] at found
    cases found
    exact ⟨nodes, rfl, fun path => by rw [List.mem_mergeSort, List.mem_eraseDups]⟩

end Rendering

/-- Contexts in which every placeholder of a template stands for the same give the same text,
whatever else they hold. -/
theorem render_eq_of_agree {template : Text} {paths : List Text}
    (found : placeholders template = .ok paths) {c d : Fields} (agree : Agree paths c d) :
    ∃ text, render template c = .ok text ∧ render template d = .ok text := by
  obtain ⟨nodes, parsed, listed⟩ := placeholders_eq_ok found
  have same : meaningOf c nodes = meaningOf d nodes :=
    meaningOf_eq_of_agree nodes fun path member => agree path ((listed path).mpr member)
  exact ⟨meaningOf c nodes, render_of_parse parsed c, same ▸ render_of_parse parsed d⟩

/-- Two loops over one name, with a path through the numbers of the outer turn. The contexts order
their entries otherwise, and one holds a name that no path leads to. -/
theorem render_eq_of_agree_shadowed :
    let template := "\x7b% for x in items %\x7d\x7b\x7b loop.index1 \x7d\x7d".toList ++
      "\x7b\x7b x \x7d\x7d\x7b% for x in x.items %\x7d\x7b\x7b x \x7d\x7d".toList ++
      "\x7b% endfor %\x7d\x7b% endfor %\x7d\x7b\x7b y.z \x7d\x7d".toList
    let paths := ["items", "loop.index1", "x", "x.items", "y.z"].map String.toList
    let items : Value := .seq [.map [("items".toList, .seq [.int 1, .null])], .text ['s']]
    let c : Fields :=
      [("items".toList, items), (['y'], .map [(['z'], .int 7), (['w'], .bool true)])]
    let d : Fields :=
      [(['w'], .int 0), (['y'], .map [(['z'], .text ['7'])]), ("items".toList, items)]
    placeholders template = .ok paths ∧ Agree paths c d ∧
      ∃ text, render template c = .ok text ∧ render template d = .ok text := by
  intro template paths items c d
  have listed : (parse template).map (fun nodes => (pathsOf nodes).eraseDups) = .ok paths := by
    decide +kernel
  have sorted : List.Pairwise (fun s t => Text.le s t = true) paths := by decide +kernel
  have found : placeholders template = .ok paths := by
    have whole : placeholders template =
        ((parse template).map fun nodes => (pathsOf nodes).eraseDups).map
          (fun listed => listed.mergeSort Text.le) := by
      unfold placeholders
      cases parse template <;> rfl
    rw [whole, listed]
    exact congrArg Except.ok (List.mergeSort_of_pairwise sorted)
  have shown : Equivalent (.int 7) (.text ['7']) := .scalar rfl rfl (by decide +kernel) rfl
  have agree : Agree paths c d := by
    simp only [Agree, paths, List.map_cons, List.map_nil, List.forall_mem_cons]
    exact ⟨.refl _, .refl _, .refl _, .refl _, shown, List.forall_mem_nil _⟩
  exact ⟨found, agree, render_eq_of_agree found agree⟩

end Template

end Folio
