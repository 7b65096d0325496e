import Folio.Report
import Folio.Template.Marker

/-! The tree of a template. Opening markers wait on a stack until the closing marker of their
kind. -/
namespace Folio.Template

open Decimal (natText)
open Text (Piece)

/-- What is wrong with the nesting of block markers: a closing marker without an open block, one
that meets a block of the other kind, or a block that stays open. Offsets count characters. -/
inductive Imbalance
  | unopened (marker : Text) (offset : Nat)
  | crossed (marker : Text) (offset : Nat) (opener : Text) (openerOffset : Nat)
  | unclosed (marker : Text) (offset : Nat)
  deriving DecidableEq, Repr

namespace Imbalance

def marker : Imbalance → Text
  | .unopened m _ => m
  | .crossed m _ _ _ => m
  | .unclosed m _ => m

def offset : Imbalance → Nat
  | .unopened _ n => n
  | .crossed _ n _ _ => n
  | .unclosed _ n => n

def place (marker : Text) (offset : Nat) : Text :=
  ['\''] ++ marker ++ "' at offset ".toList ++ natText offset

def message : Imbalance → Text
  | .unopened m n => place m n ++ " has no opening block".toList
  | .crossed m n opener k =>
    place m n ++ " closes '".toList ++ opener ++ "' opened at offset ".toList ++ natText k
  | .unclosed m n => place m n ++ " is never closed".toList

def report (i : Imbalance) : Report := .ofMarker i.message i.marker i.offset

end Imbalance

/-- An open block and the nodes that precede it, latest first. -/
structure Frame where
  head : Head
  spelled : Text
  offset : Nat
  before : List Node

/-- Builds the tree from the pieces of a template that start at `offset`. The nodes of the innermost
open block are held latest first. -/
def assemble (offset : Nat) (nodes : List Node) (stack : List Frame) :
    List (Piece (Marker × Text)) → Except Imbalance (List Node)
  | [] =>
    match stack with
    | [] => .ok nodes.reverse
    | frame :: _ => .error (.unclosed frame.spelled frame.offset)
  | .plain s :: pieces => assemble (offset + s.length) (.literal s :: nodes) stack pieces
  | .found (m, spelled) :: pieces =>
    let next := offset + spelled.length
    match m with
    | .slot path => assemble next (.slot path :: nodes) stack pieces
    | .opens head => assemble next [] (⟨head, spelled, offset, nodes⟩ :: stack) pieces
    | .closes kind =>
      match stack with
      | [] => .error (.unopened spelled offset)
      | frame :: outer =>
        if frame.head.kind = kind then
          assemble next (frame.head.block nodes.reverse :: frame.before) outer pieces
        else .error (.crossed spelled offset frame.spelled frame.offset)

def parse (template : Text) : Except Imbalance (List Node) :=
  assemble 0 [] [] (markers.cut template)

/-- Every path that a template refers to, once, in order of code points. -/
def placeholders (template : Text) : Except Imbalance (List Text) :=
  (parse template).map fun nodes => (pathsOf nodes).eraseDups.mergeSort Text.le

end Folio.Template
