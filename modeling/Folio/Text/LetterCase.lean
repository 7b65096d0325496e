import Folio.Text.Basic
import Folio.Text.Class
import Folio.Text.Table.LetterCase

/-! Capital and small forms of a text, by the full letter-case mappings. -/
namespace Folio.Text

open Table (CaseRun)

def shifted? (n : Nat) : List CaseRun → Option Nat
  | [] => none
  | run :: runs =>
    if n < run.first then none
    else if n ≤ run.last then
      if (n - run.first) % run.step = 0 then some (Int.ofNat n + run.shift).toNat
      else shifted? n runs
    else shifted? n runs

/-- The mapped form of one character: several characters, one, or itself. -/
def mapCase (special : List (Nat × List Nat)) (runs : List CaseRun) (c : Char) : Text :=
  match special.lookup c.toNat with
  | some codes => codes.map Char.ofNat
  | none => [((shifted? c.toNat runs).map Char.ofNat).getD c]

def upper (s : Text) : Text := s.flatMap (mapCase Table.upperSpecial Table.upperRuns)

/-- Whether the nearest character that counts is a letter with case. -/
def meetsCased : Text → Bool
  | [] => false
  | c :: s =>
    if CodeRange.contains Table.caseIgnorable c.toNat then meetsCased s
    else CodeRange.contains Table.cased c.toNat

/-- A capital sigma becomes the final form at the end of a word. -/
def lowerAfter (before : Text) : Text → Text
  | [] => []
  | c :: s =>
    let small :=
      if c = 'Σ' then [if meetsCased before && !meetsCased s then 'ς' else 'σ']
      else mapCase Table.lowerSpecial Table.lowerRuns c
    small ++ lowerAfter (c :: before) s

def lower (s : Text) : Text := lowerAfter [] s

def capitalize : Text → Text
  | [] => []
  | c :: s => upper [c] ++ s

end Folio.Text
