import Folio.Template.Parse
import Folio.Value.Display
import Folio.Value.Basic

/-! Rendering in three passes: loops become text, conditions are decided, slots are filled.
The text of a loop is final, so a value is never read as part of a template. -/
namespace Folio.Template

open Value (resolve)

/-- The context of one turn of a loop: the item under the loop's name, and then the turn's numbers
from zero and from one. -/
def turnContext (context : Fields) (name : Text) (item : Value) (index : Nat) : Fields :=
  let numbers : Fields :=
    [("index".toList, .int index), ("index1".toList, .int (index + 1))]
  (Members.set name item context).set "loop".toList (.map numbers)

mutual

/-- Keeps the body of a condition that holds and drops the body of one that fails. -/
def Node.decide (context : Fields) : Node → List Node
  | .condition path body => if (resolve path context).isTrue then decideAll context body else []
  | node => [node]

def decideAll (context : Fields) : List Node → List Node
  | [] => []
  | node :: nodes => node.decide context ++ decideAll context nodes

end

/-- The text of a node once loops and conditions are gone. -/
def Node.fill (context : Fields) : Node → Text
  | .literal s => s
  | .slot path => (resolve path context).display
  | .loop _ _ _ => []
  | .condition _ _ => []

def fillAll (context : Fields) (nodes : List Node) : Text := nodes.flatMap (Node.fill context)

mutual

/-- Replaces a loop by the rendered text of its body, once per item. A loop over anything but a
sequence disappears. -/
def Node.unroll (context : Fields) : Node → List Node
  | .loop name path body =>
    match resolve path context with
    | .seq items =>
      items.zipIdx.map fun (item, index) =>
        let turn := turnContext context name item index
        .literal (fillAll turn (decideAll turn (unrollAll turn body)))
    | _ => []
  | .condition path body => [.condition path (unrollAll context body)]
  | node => [node]

def unrollAll (context : Fields) : List Node → List Node
  | [] => []
  | node :: nodes => node.unroll context ++ unrollAll context nodes

end

def renderNodes (context : Fields) (nodes : List Node) : Text :=
  fillAll context (decideAll context (unrollAll context nodes))

def render (template : Text) (context : Fields) : Except Imbalance Text :=
  (parse template).map (renderNodes context)

end Folio.Template
