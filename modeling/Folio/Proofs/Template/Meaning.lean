import Folio.Template.Render

/-! The one-pass meaning of a template tree, and its agreement with the three passes of rendering.
The tree is arbitrary: nothing here depends on what the parser accepts. -/
namespace Folio.Template

open Value (resolve)

mutual

/-- The text that a node stands for. A loop's own name is bound before the turn's numbers, so a
loop over a name `loop` loses its item. -/
def Node.meaning (context : Fields) : Node → Text
  | .literal s => s
  | .slot path => (resolve path context).display
  | .loop name path body =>
    match resolve path context with
    | .seq items =>
      items.zipIdx.flatMap fun (item, index) =>
        let bound := Members.set name item context
        let numbers := [("index".toList, .int index), ("index1".toList, .int (index + 1))]
        meaningOf (Members.set "loop".toList (.map numbers) bound) body
    | _ => []
  | .condition path body =>
    if (resolve path context).isTrue then meaningOf context body else []

def meaningOf (context : Fields) : List Node → Text
  | [] => []
  | node :: nodes => node.meaning context ++ meaningOf context nodes

end

theorem decideAll_append (context : Fields) (xs ys : List Node) :
    decideAll context (xs ++ ys) = decideAll context xs ++ decideAll context ys := by
  induction xs with
  | nil => rfl
  | cons x xs ih => simp only [List.cons_append, decideAll, ih, List.append_assoc]

theorem fillAll_append (context : Fields) (xs ys : List Node) :
    fillAll context (xs ++ ys) = fillAll context xs ++ fillAll context ys :=
  List.flatMap_append

/-- Text that a loop has produced goes through the later passes unread. -/
theorem fillAll_decideAll_literals {α : Type} (context : Fields) (write : α → Text) (xs : List α) :
    fillAll context (decideAll context (xs.map fun x => .literal (write x))) =
      xs.flatMap write := by
  induction xs with
  | nil => rfl
  | cons x xs ih =>
    have head : decideAll context ((x :: xs).map fun x => .literal (write x)) =
        .literal (write x) :: decideAll context (xs.map fun x => .literal (write x)) := rfl
    rw [head, List.flatMap_cons, ← ih]
    rfl

mutual

theorem fill_decide_unroll (context : Fields) (node : Node) :
    fillAll context (decideAll context (node.unroll context)) = node.meaning context := by
  cases node with
  | literal s => simp [Node.unroll, decideAll, Node.decide, fillAll, Node.fill, Node.meaning]
  | slot path => simp [Node.unroll, decideAll, Node.decide, fillAll, Node.fill, Node.meaning]
  | loop name path body =>
    simp only [Node.unroll, Node.meaning]
    cases resolve path context with
    | seq items =>
      -- every turn is rendered in a context of its own, to which the induction applies
      have turn (item : Value) (index : Nat) :
          fillAll (turnContext context name item index)
              (decideAll (turnContext context name item index)
                (unrollAll (turnContext context name item index) body)) =
            meaningOf (turnContext context name item index) body :=
        fillAll_decideAll_unrollAll (turnContext context name item index) body
      simp only [fillAll_decideAll_literals, turn]
      rfl
    | null | bool | int | float | text | map => rfl
  | condition path body =>
    have inner := fillAll_decideAll_unrollAll context body
    by_cases holds : (resolve path context).isTrue = true
    · simp [Node.unroll, decideAll, Node.decide, Node.meaning, holds, inner]
    · simp [Node.unroll, decideAll, Node.decide, Node.meaning, holds, fillAll]

theorem fillAll_decideAll_unrollAll (context : Fields) (nodes : List Node) :
    fillAll context (decideAll context (unrollAll context nodes)) = meaningOf context nodes := by
  cases nodes with
  | nil => rfl
  | cons node nodes =>
    rw [unrollAll, decideAll_append, fillAll_append, fill_decide_unroll context node,
      fillAll_decideAll_unrollAll context nodes, meaningOf]

end

theorem render_of_parse {template : Text} {nodes : List Node} (parsed : parse template = .ok nodes)
    (context : Fields) : render template context = .ok (meaningOf context nodes) := by
  rw [render, parsed, ← fillAll_decideAll_unrollAll context nodes]
  rfl

/-- Unrolling, deciding and filling a tree gives its one-pass meaning, in every context. -/
theorem renderNodes_eq_meaningOf (context : Fields) (nodes : List Node) :
    renderNodes context nodes = meaningOf context nodes :=
  fillAll_decideAll_unrollAll context nodes

end Folio.Template
