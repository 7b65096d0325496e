import Folio.Text.Basic

/-! Patterns, and the cut of a text at their occurrences: from left to right, none inside
another. -/
namespace Folio.Text

structure Pattern (α : Type) where
  read? : Text → Option (α × Text)
  shorter : ∀ {s rest : Text} {a : α}, read? s = some (a, rest) → rest.length < s.length

inductive Piece (α : Type)
  | plain (s : Text)
  | found (a : α)
  deriving DecidableEq, Repr

namespace Piece

def pushChar {α : Type} (c : Char) : List (Piece α) → List (Piece α)
  | .plain s :: pieces => .plain (c :: s) :: pieces
  | pieces => .plain [c] :: pieces

end Piece

namespace Pattern

variable {α : Type}

/-- Each find is taken as early as it can be, and the search goes on behind it. -/
def cut (p : Pattern α) (s : Text) : List (Piece α) :=
  match s with
  | [] => []
  | c :: cs =>
    match _found : p.read? (c :: cs) with
    | some (a, rest) => .found a :: cut p rest
    | none => Piece.pushChar c (cut p cs)
termination_by s.length
decreasing_by
  · exact p.shorter _found
  · simp

def replace (p : Pattern α) (write : α → Text) (s : Text) : Text :=
  (p.cut s).flatMap fun
    | .plain s => s
    | .found a => write a

end Pattern

end Folio.Text
