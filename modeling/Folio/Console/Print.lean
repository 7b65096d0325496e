import Folio.Console.Message
import Folio.Console.Styled
import Folio.Console.Wrap
import Folio.Decimal.Binary64

/-! A console of fixed width without colours: wrapped text, panels and tables. This is the one that
the program runs with; what it makes of a message is the work of a library. -/
namespace Folio.Console

def columns : Nat := 120

def unlines (lines : List Text) : Text := lines.flatMap fun line => line ++ ['\n']

def paragraph (s : Text) : Text := unlines (wrap true columns s)

def panel (title body : Text) : Text :=
  let inner := columns - 2
  let edge := center '─' inner ([' '] ++ title ++ [' '])
  unlines ([['╭'] ++ edge ++ ['╮']] ++
    (wrap true (inner - 2) body).map (fun line =>
      ['│', ' '] ++ padRight (inner - 2) line ++ [' ', '│']) ++
    [['╰'] ++ List.replicate inner '─' ++ ['╯']])

structure Column where
  alignsRight : Bool
  header : Text
  cells : List Text

namespace Column

/-- The columns for the longest line of a cell and a blank on both sides. -/
def naturalWidth (c : Column) : Nat :=
  (c.cells.foldl (fun n cell => max n (widest cell)) (width c.header)) + 2

def setCell (c : Column) (size : Nat) (cell : Text) : List Text :=
  (wrap false (size - 2) cell).map fun line =>
    if c.alignsRight then padLeft (size - 2) line.stripRight else padRight (size - 2) line

end Column

def total (sizes : List Nat) : Nat := sizes.foldl (· + ·) 0

/-- Takes an excess from the chosen widths in equal shares, none more than `most`. -/
def reduce (excess most : Nat) : List (Nat × Bool) → List Nat
  | [] => []
  | (size, chosen) :: rest =>
    if chosen then
      let share := min most (Decimal.roundDiv excess ((rest.filter (·.2)).length + 1))
      (size - share) :: reduce (excess - share) most rest
    else size :: reduce excess most rest

/-- Makes the widest columns narrower until the sum is within a limit. The bound limits the number
of turns. -/
def collapse (limit : Nat) : Nat → List Nat → List Nat
  | 0, sizes => sizes
  | bound + 1, sizes =>
    let excess := total sizes - limit
    let widest := sizes.foldl max 0
    let second := (sizes.filter (· ≠ widest)).foldl max 0
    if excess = 0 ∨ widest = second then sizes
    else
      collapse limit bound
        (reduce excess (min excess (widest - second))
          (sizes.map fun size => (size, size == widest)))

-- the frame takes a column on each side and between each two
def columnWidths (table : List Column) : List Nat :=
  let limit := columns - (table.length + 1)
  let natural := table.map Column.naturalWidth
  collapse limit (total natural) natural

def edge (first stroke inner last : Char) (sizes : List Nat) : Text :=
  [first] ++ Text.join [inner] (sizes.map fun size => List.replicate size stroke) ++ [last]

/-- The lines of a row, whose cells may take several. -/
def row (bar : Char) (table : List (Column × Nat)) (cells : List Text) : List Text :=
  let blocks := (table.zip cells).map fun ((column, size), cell) =>
    (column.setCell size cell, blanks (size - 2))
  let height := blocks.foldl (fun n block => max n block.1.length) 1
  (List.range height).map fun i =>
    [bar] ++ blocks.flatMap (fun (lines, empty) => [' '] ++ lines[i]?.getD empty ++ [' ', bar])

def table (title : Text) (columns : List Column) : Text :=
  let sizes := columnWidths columns
  let sized := columns.zip sizes
  let height := (columns.head?.map fun column => column.cells.length).getD 0
  unlines ([center ' ' (total sizes + sizes.length + 1) title, edge '┏' '━' '┳' '┓' sizes] ++
    row '┃' sized (columns.map Column.header) ++ [edge '┡' '━' '╇' '┩' sizes] ++
    (List.range height).flatMap (fun i =>
      row '│' sized (columns.map fun column => column.cells[i]?.getD [])) ++
    [edge '└' '─' '┴' '┘' sizes])

/-- A console takes bytes, so a half of a surrogate pair cannot be printed. -/
def printable (s : WideText) : Except Failure Text := s.text.mapError .unencodable

def cells (r : SnippetRow) : Except Failure (List Text) := do
  let name ← printable r.name
  let line ← printable r.firstLine
  return [r.kind.name, shownLast name, Decimal.natText r.length, shownLast line]

def snippets (rows : List (List Text)) : Text :=
  let column (i : Nat) (alignsRight : Bool) (header : String) : Column :=
    ⟨alignsRight, header.toList, rows.map fun row => row[i]?.getD []⟩
  table "Snippet library".toList
    [column 0 false "Kind", column 1 false "Name", column 2 true "Chars",
      column 3 false "First line"]

def notice (verb : String) (kind : Library.Kind) (name : WideText) : Except Failure Text := do
  let name ← printable name
  return paragraph (verb.toList ++ [' '] ++ kind.name ++ [' '] ++
    shownBefore "[/bold]".toList name)

def print : Message → Except Failure Text
  | .document content => .ok (content ++ ['\n'])
  | .snippets rows => (rows.mapM cells).map snippets
  | .saved kind name => notice "Saved" kind name
  | .deleted kind name => notice "Deleted" kind name
  | .mistake message => .ok (paragraph (shownBefore "[/red]".toList message))
  | .refusal message => .ok (paragraph ("File error: ".toList ++ shownLast message))
  | .panel title message => .ok (panel title (shownLast message))

def plain : Console := ⟨print, print⟩

end Folio.Console
