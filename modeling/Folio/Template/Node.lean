import Folio.Text.Basic

/-! Templates as trees: literal text, slots for values, and blocks with a body. -/
namespace Folio.Template

inductive Node
  | literal (s : Text)
  | slot (path : Text)
  | loop (name path : Text) (body : List Node)
  | condition (path : Text) (body : List Node)

/-- What the opening marker of a block says. -/
inductive Head
  | loop (name path : Text)
  | condition (path : Text)
  deriving DecidableEq, Repr

inductive BlockKind
  | loop
  | condition
  deriving DecidableEq, Repr

def Head.kind : Head → BlockKind
  | .loop _ _ => .loop
  | .condition _ => .condition

def Head.block : Head → List Node → Node
  | .loop name path, body => .loop name path body
  | .condition path, body => .condition path body

mutual

/-- Every path that a node refers to, a block's own before those of its body. -/
def Node.paths : Node → List Text
  | .literal _ => []
  | .slot path => [path]
  | .loop _ path body => path :: pathsOf body
  | .condition path body => path :: pathsOf body

def pathsOf : List Node → List Text
  | [] => []
  | node :: nodes => node.paths ++ pathsOf nodes

end

end Folio.Template
