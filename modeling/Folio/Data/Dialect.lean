import Folio.Decimal.Numeral
import Folio.Text.Blank
import Folio.Value.Basic

/-! The plain dialect of data documents: `key: value` lines, and keys whose items follow on lines
of their own that start with a dash. A line of any other form has no effect. -/
namespace Folio.Data

def bracketed? : Text → Option Text
  | '[' :: rest =>
    match rest.reverse with
    | ']' :: inner => some inner.reverse
    | _ => none
  | _ => none

/-- Items in square brackets are texts and stay so; true, false and numerals are themselves, and
everything else is text. -/
def readScalar (s : Text) : Value :=
  match bracketed? s with
  | some inner => .seq ((Text.splitOn ',' inner).map fun item => .text item.strip)
  | none =>
    if s = "true".toList then .bool true
    else if s = "false".toList then .bool false
    else match Decimal.Numeral.ofText? s with
      | some numeral => .float numeral.toBinary64
      | none => .text s

inductive Line
  | entry (key value : Text)
  | item (s : Text)
  | other
  deriving DecidableEq, Repr

/-- A colon makes an entry even of a line that starts with a dash. -/
def Line.ofText (raw : Text) : Line :=
  match raw.strip with
  | [] => .other
  | '#' :: _ => .other
  | s =>
    match Text.cutAt? ':' s with
    | some (key, value) => .entry key.strip value.strip
    | none =>
      match s with
      | '-' :: rest => .item (Text.strip rest)
      | _ => .other

/-- The entries so far, and the key that takes item lines with the items it has. -/
structure Progress where
  fields : Fields
  collecting : Option (Text × List Value)

def Progress.start : Progress := ⟨[], none⟩

def Progress.step (p : Progress) : Line → Progress
  | .entry key [] => ⟨p.fields.set key (.seq []), some (key, [])⟩
  | .entry key value => ⟨p.fields.set key (readScalar value), none⟩
  | .item s =>
    match p.collecting with
    | some (key, items) =>
      let items := items ++ [.text s]
      ⟨p.fields.set key (.seq items), some (key, items)⟩
    | none => p
  | .other => p

def readDialect (document : Text) : Fields :=
  (((Text.splitOn '\n' document).map Line.ofText).foldl Progress.step Progress.start).fields

end Folio.Data
