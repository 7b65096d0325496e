import Folio.Decimal.Layout
import Folio.Text.Basic

/-! Data values: what a data document denotes, and what a template reads from them by path. -/
namespace Folio

open Decimal (Binary64)

/-- A tree of data whose texts and names are of a given type. -/
inductive Tree (τ : Type)
  | null
  | bool (b : Bool)
  | int (n : Int)
  | float (x : Binary64)
  | text (s : τ)
  | seq (items : List (Tree τ))
  | map (fields : List (τ × Tree τ))
  deriving Inhabited

abbrev Value := Tree Text

/-- Named trees in the order in which their names first appeared. -/
abbrev Members (τ : Type) := List (τ × Tree τ)

abbrev Fields := Members Text

namespace Members

variable {τ : Type} [DecidableEq τ]

def get? (name : τ) : Members τ → Option (Tree τ)
  | [] => none
  | (key, value) :: fields => if key = name then some value else get? name fields

/-- Replaces the value of a name in place, or adds the name at the end. -/
def set (name : τ) (value : Tree τ) : Members τ → Members τ
  | [] => [(name, value)]
  | (key, old) :: fields =>
    if key = name then (key, value) :: fields else (key, old) :: set name value fields

@[simp] theorem get?_set_self (name : τ) (value : Tree τ) (fields : Members τ) :
    get? name (set name value fields) = some value := by
  induction fields with
  | nil => simp [set, get?]
  | cons field fields ih =>
    by_cases h : field.1 = name
    · simp [set, get?, h]
    · simp [set, get?, h, ih]

theorem get?_set_of_ne {name other : τ} (distinct : other ≠ name) (value : Tree τ)
    (fields : Members τ) : get? other (set name value fields) = get? other fields := by
  induction fields with
  | nil => simp [set, get?, Ne.symm distinct]
  | cons field fields ih =>
    obtain ⟨key, old⟩ := field
    by_cases h : key = name
    · simp [set, get?, h, Ne.symm distinct]
    · simp only [set, if_neg h, get?, ih]

end Members

namespace Tree

variable {τ σ : Type} (f : τ → σ)

mutual

def mapTexts : Tree τ → Tree σ
  | .null => .null
  | .bool b => .bool b
  | .int n => .int n
  | .float x => .float x
  | .text s => .text (f s)
  | .seq items => .seq (mapItems items)
  | .map fields => .map (mapMembers fields)

def mapItems : List (Tree τ) → List (Tree σ)
  | [] => []
  | item :: items => mapTexts item :: mapItems items

def mapMembers : List (τ × Tree τ) → List (σ × Tree σ)
  | [] => []
  | (key, value) :: fields => (f key, mapTexts value) :: mapMembers fields

end

end Tree

namespace Value

/-- Whether a condition on the value holds. Zero, not-a-number, the empty text, null and false
fail; every sequence and mapping holds, empty ones too. -/
def isTrue : Value → Bool
  | .null => false
  | .bool b => b
  | .int n => n != 0
  | .float x => x != .nan && !x.isZero
  | .text s => !s.isEmpty
  | .seq _ => true
  | .map _ => true

/-- Follows names through nested mappings. Where a name is missing, or the value is no mapping,
the result is the empty text. -/
def follow : List Text → Value → Value
  | [], value => value
  | name :: names, .map fields =>
    match Members.get? name fields with
    | some value => follow names value
    | none => .text []
  | _ :: _, _ => .text []

/-- The value at a dotted path. A sequence is never entered. -/
def resolve (path : Text) (context : Fields) : Value :=
  follow (Text.splitOn '.' path) (.map context)

end Value

end Folio
