import Folio.Markup.Inline
import Folio.Text.Blank

/-! Kinds of lines. A line may hold one line end of its own at its end; elsewhere such a line end
hides the kind. -/
namespace Folio.Markup

open Text (isBlank stripLeft run? dropPrefix?)

inductive ListKind
  | unordered
  | ordered
  deriving DecidableEq, Repr

/-- A line outside a fence; what follows the mark of a line is kept. -/
inductive Line
  | row
  | quote (rest : Text)
  | item (kind : ListKind) (rest : Text)
  | heading (level : Nat) (title : Text)
  | rule
  | blank
  | prose
  deriving DecidableEq, Repr

def dropFinalNewline (s : Text) : Text :=
  match s.reverse with
  | '\n' :: rest => rest.reverse
  | _ => s

def isFence (s : Text) : Bool := (List.replicate 3 backtick).isPrefixOf s

def rowInner? (s : Text) : Option Text :=
  match dropFinalNewline s with
  | '|' :: rest =>
    match rest.reverse with
    | '|' :: c :: inner => if (c :: inner).contains '\n' then none else some (c :: inner).reverse
    | _ => none
  | _ => none

/-- A row that only sets off the header of a table. -/
def isSeparatorRow (s : Text) : Bool :=
  match rowInner? s with
  | some inner =>
    inner.all (fun c => isBlank c || c == ':' || c == '|' || c == '-') && inner.contains '-'
  | none => false

/-- The start of a quotation, in its escaped form. -/
def quoteMark : Text := "&gt; ".toList

def bullet? (s : Text) : Option Text :=
  match stripLeft s with
  | c :: ' ' :: rest => if c = '-' ∨ c = '*' ∨ c = '+' then some rest else none
  | _ => none

def numbered? (s : Text) : Option Text := do
  let (_, s) ← run? Text.isDigit (stripLeft s)
  dropPrefix? ['.', ' '] s

def heading? (s : Text) : Option (Nat × Text) := do
  let (marks, s) ← run? (· == '#') s
  guard (marks.length ≤ 6)
  let (_, s) ← run? isBlank s
  let title := dropFinalNewline s
  guard (!title.contains '\n')
  return (marks.length, title)

def isRule (s : Text) : Bool :=
  let marks := dropFinalNewline s
  marks.all (· == '-') && 3 ≤ marks.length

def Line.ofText (s : Text) : Line :=
  if (rowInner? s).isSome then .row
  else match dropPrefix? quoteMark s with
  | some rest => .quote rest
  | none =>
    match bullet? s, numbered? s, heading? s with
    | some rest, _, _ => .item .unordered rest
    | none, some rest, _ => .item .ordered rest
    | none, none, some (level, title) => .heading level title
    | none, none, none =>
      if isRule s then .rule else if Text.allBlank s then .blank else .prose

/-- The cells of a table row, empty ones left out. -/
def cells (row : Text) : List Text :=
  ((Text.splitOn '|' row).map Text.strip).filter fun cell => !cell.isEmpty

/-- The lines of a text; a carriage return before a line feed belongs to the line end. -/
def lines : Text → List Text
  | [] => [[]]
  | '\r' :: '\n' :: s => [] :: lines s
  | c :: s =>
    if c = '\n' then [] :: lines s
    else match lines s with
      | [] => [[c]]
      | line :: rest => (c :: line) :: rest

end Folio.Markup
