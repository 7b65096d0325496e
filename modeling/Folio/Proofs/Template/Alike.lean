import Folio.Proofs.Template.Meaning
import Folio.Proofs.Template.Spelling
import Mathlib.Data.List.Forall2
import Mathlib.Data.Option.Basic

/-! Rendering a template in two contexts of the same shape. The two texts are made of the same
pieces of the template and differ only where a value is shown, so no value is read as part of a
template. -/
namespace Folio

namespace Value

def isScalar : Value → Bool
  | .seq _ => false
  | .map _ => false
  | _ => true

/-- Values of the same shape whose scalars hold or fail together in a condition. -/
inductive Alike : Value → Value → Prop
  | scalar {a b : Value} : a.isScalar = true → b.isScalar = true → a.isTrue = b.isTrue →
      Alike a b
  | seq {xs ys : List Value} : List.Forall₂ Alike xs ys → Alike (.seq xs) (.seq ys)
  | map {c d : Fields} :
      (∀ name, Option.Rel Alike (Members.get? name c) (Members.get? name d)) →
        Alike (.map c) (.map d)

/-- What a loop over the value runs through. -/
def items : Value → List Value
  | .seq items => items
  | _ => []

theorem items_of_isScalar {a : Value} (scalar : a.isScalar = true) : a.items = [] := by
  cases a with
  | seq items => cases scalar
  | _ => rfl

/-- What stands under a name in the value. -/
def get? (name : Text) : Value → Option Value
  | .map fields => Members.get? name fields
  | _ => none

theorem get?_of_isScalar {a : Value} (scalar : a.isScalar = true) (name : Text) :
    a.get? name = none := by
  cases a with
  | map fields => cases scalar
  | _ => rfl

theorem follow_cons (name : Text) (names : List Text) (a : Value) :
    follow (name :: names) a = ((a.get? name).map (follow names)).getD (.text []) := by
  cases a with
  | map fields =>
    simp only [follow, get?]
    cases Members.get? name fields <;> rfl
  | _ => rfl

/-- A relation between values that goes on to what stands under each name in them. -/
structure Congruent (R : Value → Value → Prop) : Prop where
  emptyText : R (.text []) (.text [])
  get? : ∀ {a b : Value}, R a b → ∀ name, Option.Rel R (a.get? name) (b.get? name)

theorem Congruent.follow {R : Value → Value → Prop} (congruent : Congruent R) {a b : Value}
    (related : R a b) (names : List Text) : R (Value.follow names a) (Value.follow names b) := by
  induction names generalizing a b with
  | nil => exact related
  | cons name names ih =>
    have found := congruent.get? related name
    rw [follow_cons, follow_cons]
    generalize a.get? name = v at found ⊢
    generalize b.get? name = w at found ⊢
    cases found with
    | none => exact congruent.emptyText
    | some values => exact ih values

namespace Alike

theorem isTrue_eq {a b : Value} (alike : Alike a b) : a.isTrue = b.isTrue := by
  cases alike with
  | scalar _ _ same => exact same
  | seq _ => rfl
  | map _ => rfl

theorem emptyText : Alike (.text []) (.text []) := .scalar rfl rfl rfl

theorem of_fields {c d : Fields}
    (fields : List.Forall₂ (fun x y => x.1 = y.1 ∧ Alike x.2 y.2) c d) :
    Alike (.map c) (.map d) := by
  refine .map fun name => ?_
  induction fields with
  | nil => exact .none
  | @cons x y c d first _ ih =>
    obtain ⟨key, value⟩ := x
    obtain ⟨other, value'⟩ := y
    obtain ⟨same, values⟩ := first
    obtain rfl : key = other := same
    by_cases here : key = name
    · simpa [Members.get?, here] using Option.Rel.some values
    · simpa [Members.get?, here] using ih

theorem get? {c d : Fields} (alike : Alike (.map c) (.map d)) (name : Text) :
    Option.Rel Alike (Members.get? name c) (Members.get? name d) := by
  cases alike with
  | scalar impossible _ _ => cases impossible
  | map fields => exact fields name

theorem set {c d : Fields} (alike : Alike (.map c) (.map d)) (name : Text) {a b : Value}
    (values : Alike a b) : Alike (.map (c.set name a)) (.map (d.set name b)) := by
  refine .map fun other => ?_
  by_cases same : other = name
  · subst same
    rw [Members.get?_set_self, Members.get?_set_self]
    exact .some values
  · rw [Members.get?_set_of_ne same, Members.get?_set_of_ne same]
    exact alike.get? other

theorem congruent : Congruent Alike where
  emptyText := emptyText
  get? alike name := by
    cases alike with
    | scalar first second _ =>
      rw [get?_of_isScalar first, get?_of_isScalar second]
      exact .none
    | seq _ => exact .none
    | map fields => exact fields name

theorem follow {a b : Value} (alike : Alike a b) (names : List Text) :
    Alike (Value.follow names a) (Value.follow names b) :=
  congruent.follow alike names

theorem items {a b : Value} (alike : Alike a b) : List.Forall₂ Alike a.items b.items := by
  cases alike with
  | scalar first second _ =>
    rw [items_of_isScalar first, items_of_isScalar second]
    exact .nil
  | seq items => exact items
  | map _ => exact .nil

theorem resolve {c d : Fields} (alike : Alike (.map c) (.map d)) (path : Text) :
    Alike (Value.resolve path c) (Value.resolve path d) :=
  alike.follow _

end Alike

end Value

namespace Template

open Value (Alike resolve)

mutual

def Node.literals : Node → List Text
  | .literal s => [s]
  | .slot _ => []
  | .loop _ _ body => literalsOf body
  | .condition _ body => literalsOf body

def literalsOf : List Node → List Text
  | [] => []
  | node :: nodes => node.literals ++ literalsOf nodes

end

theorem Node.meaning_loop (context : Fields) (name path : Text) (body : List Node) :
    (Node.loop name path body).meaning context =
      (resolve path context).items.zipIdx.flatMap fun (item, index) =>
        meaningOf (turnContext context name item index) body := by
  simp only [Node.meaning]
  cases resolve path context <;> rfl

theorem Spells.literal_infix {nodes : List Node} {template : Text} (h : Spells nodes template) :
    ∀ s ∈ literalsOf nodes, s <:+: template := by
  induction h with
  | nil => simp [literalsOf]
  | @literal s t nodes _ ih =>
    intro piece member
    rcases List.mem_append.mp member with member | member
    · obtain rfl := List.mem_singleton.mp member
      exact (List.prefix_append piece t).isInfix
    · exact (ih piece member).trans (List.suffix_append s t).isInfix
  | @slot path marker t nodes _ _ ih =>
    intro piece member
    exact (ih piece member).trans (List.suffix_append marker t).isInfix
  | @loop name path opening inner closing t body nodes _ _ _ _ ihBody ihNodes =>
    intro piece member
    rcases List.mem_append.mp member with member | member
    · exact (ihBody piece member).trans ⟨opening, closing ++ t, by simp⟩
    · exact (ihNodes piece member).trans ⟨opening ++ (inner ++ closing), [], by simp⟩
  | @condition path opening inner closing t body nodes _ _ _ _ ihBody ihNodes =>
    intro piece member
    rcases List.mem_append.mp member with member | member
    · exact (ihBody piece member).trans ⟨opening, closing ++ t, by simp⟩
    · exact (ihNodes piece member).trans ⟨opening ++ (inner ++ closing), [], by simp⟩

/-- A part of two texts: literal text that both have, or a value shown in each. -/
inductive Part
  | literal (s : Text)
  | shown (left right : Value)

namespace Part

def left : Part → Text
  | literal s => s
  | shown a _ => a.display

def right : Part → Text
  | literal s => s
  | shown _ b => b.display

/-- Literal text is one of the given pieces, and values shown at one place are alike. -/
def Fits (pieces : List Text) : Part → Prop
  | literal s => s ∈ pieces
  | shown a b => Alike a b

end Part

/-- Two texts with the same parts. -/
def Parallel (pieces : List Text) (s t : Text) : Prop :=
  ∃ parts : List Part, (∀ part ∈ parts, part.Fits pieces) ∧
    s = parts.flatMap Part.left ∧ t = parts.flatMap Part.right

namespace Parallel

variable {pieces : List Text}

theorem nil : Parallel pieces [] [] := ⟨[], by simp, rfl, rfl⟩

theorem single {part : Part} (fits : part.Fits pieces) :
    Parallel pieces part.left part.right :=
  ⟨[part], by simpa using fits, by simp, by simp⟩

theorem append {s t u v : Text} (first : Parallel pieces s t) (second : Parallel pieces u v) :
    Parallel pieces (s ++ u) (t ++ v) := by
  obtain ⟨xs, fitXs, rfl, rfl⟩ := first
  obtain ⟨ys, fitYs, rfl, rfl⟩ := second
  exact ⟨xs ++ ys, List.forall_mem_append.mpr ⟨fitXs, fitYs⟩, List.flatMap_append.symm,
    List.flatMap_append.symm⟩

end Parallel

theorem alike_turnContext {c d : Fields} (alike : Alike (.map c) (.map d)) (name : Text)
    {a b : Value} (items : Alike a b) (index : Nat) :
    Alike (.map (turnContext c name a index)) (.map (turnContext d name b index)) := by
  have number (n : Int) : Alike (.int n) (.int n) := .scalar rfl rfl rfl
  have numbers := Alike.of_fields (.cons (a := ("index".toList, .int index)) ⟨rfl, number index⟩
    (.cons (a := ("index1".toList, .int (index + 1))) ⟨rfl, number (index + 1)⟩ .nil))
  exact (alike.set name items).set "loop".toList numbers

section Rendering

variable {pieces : List Text} {body : List Node}

theorem parallel_turns {c d : Fields} (alike : Alike (.map c) (.map d)) (name : Text)
    (inside : ∀ {c d : Fields}, Alike (.map c) (.map d) →
      Parallel pieces (meaningOf c body) (meaningOf d body))
    {xs ys : List Value} (items : List.Forall₂ Alike xs ys) (start : Nat) :
    Parallel pieces
      ((xs.zipIdx start).flatMap fun (item, index) =>
        meaningOf (turnContext c name item index) body)
      ((ys.zipIdx start).flatMap fun (item, index) =>
        meaningOf (turnContext d name item index) body) := by
  induction items generalizing start with
  | nil => exact .nil
  | cons first _ ih =>
    simp only [List.zipIdx_cons, List.flatMap_cons]
    exact (inside (alike_turnContext alike name first start)).append (ih (start + 1))

mutual

theorem parallel_meaning (node : Node) (literals : ∀ s ∈ node.literals, s ∈ pieces)
    {c d : Fields} (alike : Alike (.map c) (.map d)) :
    Parallel pieces (node.meaning c) (node.meaning d) := by
  cases node with
  | literal s =>
    have fits : (Part.literal s).Fits pieces := literals s (by simp [Node.literals])
    exact .single fits
  | slot path =>
    have fits : (Part.shown (resolve path c) (resolve path d)).Fits pieces := alike.resolve path
    exact .single fits
  | loop name path body =>
    have inside {c d : Fields} (alike : Alike (.map c) (.map d)) :=
      parallel_meaningOf body literals alike
    -- alike values have equally many items, so both loops take the same turns
    rw [Node.meaning_loop, Node.meaning_loop]
    exact parallel_turns alike name inside (alike.resolve path).items 0
  | condition path body =>
    -- the two conditions hold or fail together
    have same := (alike.resolve path).isTrue_eq
    simp only [Node.meaning, same]
    split
    · exact parallel_meaningOf body literals alike
    · exact .nil

theorem parallel_meaningOf (nodes : List Node) (literals : ∀ s ∈ literalsOf nodes, s ∈ pieces)
    {c d : Fields} (alike : Alike (.map c) (.map d)) :
    Parallel pieces (meaningOf c nodes) (meaningOf d nodes) := by
  cases nodes with
  | nil => exact .nil
  | cons node nodes =>
    simp only [literalsOf, List.forall_mem_append] at literals
    exact (parallel_meaning node literals.1 alike).append
      (parallel_meaningOf nodes literals.2 alike)

end

end Rendering

/-- In contexts that differ only in scalars of the same truth, a template has the same parts: its
own literal text, and values that are alike. -/
theorem render_alike {template : Text} (parses : (parse template).isOk = true) {c d : Fields}
    (alike : Alike (.map c) (.map d)) :
    ∃ nodes, parse template = .ok nodes ∧ (∀ s ∈ literalsOf nodes, s <:+: template) ∧
      ∃ parts : List Part, (∀ part ∈ parts, part.Fits (literalsOf nodes)) ∧
        render template c = .ok (parts.flatMap Part.left) ∧
        render template d = .ok (parts.flatMap Part.right) := by
  cases parsed : parse template with
  | error imbalance =>
    rw [parsed] at parses
    cases parses
  | ok nodes =>
    have nested := (assemble_eq_ok_iff 0 (markers.cut template) nodes).mp parsed
    have spells := (nested.spells (isCut_cut template)).2
    obtain ⟨parts, fit, left, right⟩ := parallel_meaningOf nodes (fun _ member => member) alike
    have rendered (context : Fields) : render template context = .ok (meaningOf context nodes) := by
      unfold render
      rw [parsed, ← fillAll_decideAll_unrollAll context nodes]
      rfl
    exact ⟨nodes, rfl, spells.literal_infix, parts, fit, left ▸ rendered c, right ▸ rendered d⟩

/-- Texts that look like markers take the place of other texts, and null that of zero. -/
theorem render_alike_markers :
    let template := "\x7b% for x in xs %\x7d[\x7b\x7b x \x7d\x7d]".toList ++
      "\x7b% if loop.index %\x7d;\x7b% endif %\x7d\x7b% endfor %\x7d".toList
    let plain : Fields := [("xs".toList, .seq [.text ['a'], .text ['b'], .int 0])]
    let marked : Fields :=
      [("xs".toList,
        .seq [.text "\x7b\x7b xs \x7d\x7d".toList, .text "\x7b% endfor %\x7d".toList, .null])]
    (parse template).isOk = true ∧ Alike (.map plain) (.map marked) ∧
      ∃ nodes, parse template = .ok nodes ∧ (∀ s ∈ literalsOf nodes, s <:+: template) ∧
        ∃ parts : List Part, (∀ part ∈ parts, part.Fits (literalsOf nodes)) ∧
          render template plain = .ok (parts.flatMap Part.left) ∧
          render template marked = .ok (parts.flatMap Part.right) := by
  intro template plain marked
  have parses : (parse template).isOk = true := by decide +kernel
  have items : Alike (.seq [.text ['a'], .text ['b'], .int 0])
      (.seq [.text "\x7b\x7b xs \x7d\x7d".toList, .text "\x7b% endfor %\x7d".toList, .null]) :=
    .seq (.cons (.scalar rfl rfl rfl) (.cons (.scalar rfl rfl rfl)
      (.cons (.scalar rfl rfl rfl) .nil)))
  have alike : Alike (.map plain) (.map marked) := .of_fields (.cons ⟨rfl, items⟩ .nil)
  exact ⟨parses, alike, render_alike parses alike⟩

end Template

end Folio
