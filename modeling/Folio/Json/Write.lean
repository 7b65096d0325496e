import Folio.Text.Wide

/-! JSON text with one item on a line, two blanks of indentation for each level, and every
character as itself that may stand for itself. -/
namespace Folio.Json

def escapeChar (c : Char) : Text :=
  if c = '"' then ['\\', '"']
  else if c = '\\' then ['\\', '\\']
  else if c = '\n' then ['\\', 'n']
  else if c = '\r' then ['\\', 'r']
  else if c = '\t' then ['\\', 't']
  else if c = '\x08' then ['\\', 'b']
  else if c = '\x0c' then ['\\', 'f']
  else if c.toNat < 0x20 then ['\\', 'u'] ++ Text.hex 4 c.toNat
  else [c]

def escape : CodePoint → WideText
  | .char c => (escapeChar c).wide
  | .half n => [.half n]

def writeString (s : WideText) : WideText :=
  Text.wide ['"'] ++ s.flatMap escape ++ Text.wide ['"']

def newline (level : Nat) : Text := '\n' :: List.replicate (2 * level) ' '

/-- Items between brackets, each on a line of its own one level further in. -/
def writeBlock (opening closing : Char) (level : Nat) (items : List WideText) : WideText :=
  if items.isEmpty then Text.wide [opening, closing]
  else
    Text.wide (opening :: newline (level + 1)) ++
      List.intercalate (Text.wide (',' :: newline (level + 1))) items ++
      Text.wide (newline level ++ [closing])

def writeMember (name : Text) (value : WideText) : WideText :=
  writeString name.wide ++ Text.wide [':', ' '] ++ value

end Folio.Json
