import Folio.Text.Basic

/-! Texts set between style marks such as `[bold]`. A backslash in front of a bracket serves to
take a mark literally; in front of a bracket that starts no mark it disappears. -/
namespace Folio.Console

def marksStyle (c : Char) : Bool := ('a' ≤ c && c ≤ 'z') || c == '#' || c == '/' || c == '@'

/-- Whether a text, from behind an opening bracket on, completes a style mark. -/
def completesMark : Text → Bool
  | [] => false
  | c :: s => marksStyle c && (s.dropWhile fun c => c != '[' && c != ']').head? == some ']'

def shown : Text → Text
  | [] => []
  | [c] => [c]
  | c :: d :: s =>
    if c = '\\' ∧ d = '[' ∧ !completesMark s then shown (d :: s) else c :: shown (d :: s)

/-- The text as it appears with nothing behind it: one single backslash at its end is doubled. -/
def shownLast (s : Text) : Text :=
  match (s.reverse.takeWhile (· == '\\')).length with
  | 1 => shown s ++ ['\\']
  | _ => shown s

/-- The text as it appears in front of a closing style mark: of several backslashes at its end each
pair counts for one, and an odd one more makes the mark literal. -/
def shownBefore (mark : Text) (s : Text) : Text :=
  let slashes := (s.reverse.takeWhile (· == '\\')).length
  if slashes ≤ 1 then shown s
  else
    shown (s.take (s.length - slashes)) ++ List.replicate (slashes / 2) '\\' ++
      (if slashes % 2 = 1 then mark else [])

end Folio.Console
