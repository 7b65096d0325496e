import Folio.Text.Blank
import Folio.Text.Line
import Folio.Text.Quoted
import Folio.Text.Utf8

/-! Strings of code points. An escape in a JSON text can denote half of a surrogate pair, which is
no character and which no bytes stand for; a text of characters never holds one. -/
namespace Folio

inductive CodePoint
  | char (c : Char)
  | half (n : Fin 0x800)
  deriving DecidableEq, Repr

abbrev WideText := List CodePoint

/-- A text as a string that holds no halves. -/
def Text.wide (s : Text) : WideText := s.map .char

namespace CodePoint

/-- The code point of a code unit; the units from d800 to dfff are halves. -/
def ofUnit (n : Nat) : CodePoint :=
  if 0xd800 ≤ n ∧ n < 0xe000 then .half (Fin.ofNat 0x800 (n - 0xd800)) else .char (Char.ofNat n)

def isHalf : CodePoint → Bool
  | .char _ => false
  | .half _ => true

def isBlank : CodePoint → Bool
  | .char c => Text.isBlank c
  | .half _ => false

def endsLine : CodePoint → Bool
  | .char c => Text.isLineEnd c
  | .half _ => false

/-- The character, or the replacement character for a half. -/
def replaced : CodePoint → Char
  | .char c => c
  | .half _ => '\ufffd'

def escapeHalf (n : Fin 0x800) : Text := ['\\', 'u'] ++ Text.hex 4 (0xd800 + n)

end CodePoint

namespace WideText

open Text.Utf8 (Bytes)

/-- Halves side by side: where they start, how many they are, and the first of them. -/
structure Fault where
  offset : Nat
  length : Nat
  first : Fin 0x800
  deriving DecidableEq, Repr

def Fault.message (fault : Fault) : Text :=
  let place :=
    if fault.length = 1 then
      "character '".toList ++ CodePoint.escapeHalf fault.first ++ "' in position ".toList ++
        Decimal.natText fault.offset
    else
      "characters in position ".toList ++ Decimal.natText fault.offset ++ ['-'] ++
        Decimal.natText (fault.offset + fault.length - 1)
  "'utf-8' codec can't encode ".toList ++ place ++ ": surrogates not allowed".toList

/-- The string as a text, or the first halves in it. -/
def text : WideText → Except Fault Text
  | [] => .ok []
  | .half n :: s => .error ⟨0, 1 + (s.takeWhile CodePoint.isHalf).length, n⟩
  | .char c :: s =>
    match text s with
    | .ok t => .ok (c :: t)
    | .error fault => .error { fault with offset := fault.offset + 1 }

def encode (s : WideText) : Except Fault Bytes := s.text.map Text.Utf8.encode

def replaced (s : WideText) : Text := s.map CodePoint.replaced

def strip (s : WideText) : WideText :=
  Text.dropEndWhile CodePoint.isBlank (s.dropWhile CodePoint.isBlank)

def firstLine (s : WideText) : WideText := s.takeWhile fun c => !c.endsLine

/-- A string in quotes, as diagnostics show it. -/
def quoted (s : WideText) : Text :=
  let mark := Text.quoteMark s.replaced
  [mark] ++ s.flatMap (fun
    | .char c => Text.quoteChar mark c
    | .half n => CodePoint.escapeHalf n) ++ [mark]

end WideText

end Folio
