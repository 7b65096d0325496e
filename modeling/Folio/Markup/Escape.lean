import Folio.Text.Basic
import Folio.Text.Class

/-! Text made safe inside HTML. -/
namespace Folio.Markup

open Text (run? dropPrefix?)

def escapeChar (c : Char) : Text :=
  if c = '&' then "&amp;".toList
  else if c = '<' then "&lt;".toList
  else if c = '>' then "&gt;".toList
  else [c]

def escape (s : Text) : Text := s.flatMap escapeChar

def endsReference (digit : Char → Bool) (s : Text) : Bool :=
  match run? digit s with
  | some (_, ';' :: _) => true
  | _ => false

/-- Whether an ampersand with this text behind it starts a character entity. -/
def startsEntity (s : Text) : Bool :=
  ["amp;", "lt;", "gt;", "quot;"].any (fun name => name.toList.isPrefixOf s) ||
    match s with
    | '#' :: 'x' :: rest => endsReference (fun c => (Text.hexValue? c).isSome) rest
    | '#' :: rest => endsReference Text.isDigit rest
    | _ => false

/-- The same, but an ampersand that starts an entity stays. -/
def escapeKeeping : Text → Text
  | [] => []
  | c :: s =>
    (if c = '&' ∧ startsEntity s then ['&'] else escapeChar c) ++ escapeKeeping s

end Folio.Markup
