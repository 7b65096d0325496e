import Folio.Text.Quoted
import Folio.Value.Basic

/-! The two texts of a value: what a document shows for it, and what a diagnostic shows. -/
namespace Folio.Value

open Decimal (Binary64 Layout intText)

/-- Integers of 2⁵³ and above are shown as the nearest double-precision number. -/
def intDisplay (n : Int) : Text :=
  if n.natAbs < Nat.pow 2 53 then intText n else Layout.display.write (.ofInt n)

/-- The text that stands for a value in a document; sequences and mappings have none. -/
def display : Value → Text
  | .null => []
  | .bool b => if b then "true".toList else "false".toList
  | .int n => intDisplay n
  | .float x => Layout.display.write x
  | .text s => s
  | .seq _ => []
  | .map _ => []

end Folio.Value

namespace Folio.Tree

open Decimal (Layout intText)

variable {τ : Type} (quote : τ → Text)

mutual

/-- A tree as a diagnostic names it, with all its parts and its texts in quotes. -/
def diagnostic : Tree τ → Text
  | .null => "None".toList
  | .bool b => if b then "True".toList else "False".toList
  | .int n => intText n
  | .float x => Layout.literal.write x
  | .text s => quote s
  | .seq items => ['['] ++ Text.join [',', ' '] (diagnosticItems items) ++ [']']
  | .map fields => ['{'] ++ Text.join [',', ' '] (diagnosticFields fields) ++ ['}']

def diagnosticItems : List (Tree τ) → List Text
  | [] => []
  | item :: items => diagnostic item :: diagnosticItems items

def diagnosticFields : List (τ × Tree τ) → List Text
  | [] => []
  | (key, value) :: fields =>
    (quote key ++ [':', ' '] ++ diagnostic value) :: diagnosticFields fields

end

end Folio.Tree
