import Folio.Text.Basic
import Folio.Text.Class
import Folio.Text.Table.Unprintable

/-! A text in quotes, as diagnostics show it: every character visible, one line. -/
namespace Folio.Text

def isPrintable (c : Char) : Bool := !CodeRange.contains Table.unprintable c.toNat

/-- A character that cannot be seen, by the shortest escape that holds its code point. -/
def escapeCode (c : Char) : Text :=
  let n := c.toNat
  if n < 0x100 then ['\\', 'x'] ++ hex 2 n
  else if n < 0x10000 then ['\\', 'u'] ++ hex 4 n
  else ['\\', 'U'] ++ hex 8 n

def quoteChar (mark c : Char) : Text :=
  if c = mark ∨ c = '\\' then ['\\', c]
  else if c = '\n' then ['\\', 'n']
  else if c = '\r' then ['\\', 'r']
  else if c = '\t' then ['\\', 't']
  else if isPrintable c then [c]
  else escapeCode c

/-- Single quotes, unless the text holds a single quote and no double quote. -/
def quoteMark (s : Text) : Char := if s.contains '\'' && !s.contains '"' then '"' else '\''

def quoted (s : Text) : Text :=
  let mark := quoteMark s
  [mark] ++ s.flatMap (quoteChar mark) ++ [mark]

end Folio.Text
