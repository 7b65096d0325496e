import Folio.Decimal.Digits
import Folio.Text.Line

/-! What can be wrong with a JSON text, and how it is reported with its line and column. -/
namespace Folio.Json

inductive Breach
  | missingValue
  | missingName
  | missingColon
  | missingComma
  | extraData
  | unterminatedString
  | controlCharacter
  | unknownEscape
  | badUnicodeEscape
  | byteOrderMark
  deriving DecidableEq, Repr

/-- A breach is placed by the number of characters from it to the end of the text. An integer with
too many digits and a nesting too deep to follow are limits, not breaches. -/
inductive Fault
  | breach (b : Breach) (remaining : Nat)
  | integerTooLong (digits : Nat)
  | tooDeep (insideArray : Bool)
  deriving DecidableEq, Repr

def Breach.message : Breach → Text
  | .missingValue => "Expecting value".toList
  | .missingName => "Expecting property name enclosed in double quotes".toList
  | .missingColon => "Expecting ':' delimiter".toList
  | .missingComma => "Expecting ',' delimiter".toList
  | .extraData => "Extra data".toList
  | .unterminatedString => "Unterminated string starting at".toList
  | .controlCharacter => "Invalid control character at".toList
  | .unknownEscape => "Invalid \\escape".toList
  | .badUnicodeEscape => "Invalid \\uXXXX escape".toList
  | .byteOrderMark => "Unexpected UTF-8 BOM (decode using utf-8-sig)".toList

def Breach.report (b : Breach) (document : Text) (remaining : Nat) : Text :=
  let offset := document.length - remaining
  let (line, column) := Text.lineColumn (document.take offset)
  let number := Decimal.natText
  b.message ++ ": line ".toList ++ number line ++ " column ".toList ++ number column ++
    " (char ".toList ++ number offset ++ [')']

end Folio.Json
