import Folio.Decimal.Digits
import Folio.Report
import Folio.Storage.FileSystem
import Folio.Text.Wide

/-! Everything that can end an operation early: reports to the user, refusals of the file system,
and inputs that are refused without a report. -/
namespace Folio

open Storage (FileError FileSystem Path)

section Except

variable {ε α β : Type} {x : Except ε α}

theorem Except.bind_eq_ok_iff {f : α → Except ε β} {b : β} :
    (x >>= f) = .ok b ↔ ∃ a, x = .ok a ∧ f a = .ok b := by
  cases x <;> simp [bind, Except.bind]

theorem Except.isOk_iff : x.isOk = true ↔ ∃ a, x = .ok a := by
  cases x <;> simp [Except.isOk, Except.toBool]

theorem Except.isOk_eq_false_iff : x.isOk = false ↔ ∃ e, x = .error e := by
  cases x <;> simp [Except.isOk, Except.toBool]

theorem Except.toOption_eq_some_iff {a : α} : x.toOption = some a ↔ x = .ok a := by
  cases x <;> simp [Except.toOption]

end Except

/-- How much room the stack has: for the arrays and objects of a JSON text inside one another, and
for the calls inside one another that make missing directories. The file of a library, three deep,
can always be followed. -/
structure Room where
  nesting : Nat
  directories : Nat
  enough : 3 ≤ nesting

inductive Failure
  | report (r : Report)
  | file (e : FileError)
  | stream (message : Text)
  | undecodable (f : Text.Utf8.Fault)
  | unencodable (f : WideText.Fault)
  | unknownKind (name : Text)
  | integerTooLong (digits : Nat)
  | tooDeep (insideArray : Bool)
  | exhausted
  | homeUnknown

namespace Failure

def message : Failure → Text
  | .report r => r.message
  | .file e => e.message
  | .stream message => message
  | .undecodable f => f.message
  | .unencodable f => f.message
  | .unknownKind name => name.quoted ++ " is not a valid SnippetKind".toList
  | .integerTooLong n =>
    "Exceeds the limit (4300 digits) for integer string conversion: value has ".toList ++
      Decimal.natText n ++
      " digits; use sys.set_int_max_str_digits() to increase the limit".toList
  | .tooDeep insideArray =>
    "maximum recursion depth exceeded while decoding a JSON ".toList ++
      (if insideArray then "array" else "object").toList ++ " from a unicode string".toList
  | .exhausted => "maximum recursion depth exceeded while calling a Python object".toList
  | .homeUnknown => "Could not determine home directory.".toList

end Failure

namespace Storage

/-- The text of a file, its line ends unified. -/
def readText (fs : FileSystem) (p : Path) : Except Failure Text :=
  match fs.read p with
  | .error e => .error (.file e)
  | .ok bytes =>
    match Text.Utf8.decode bytes with
    | .error f => .error (.undecodable f)
    | .ok s => .ok s.universalNewlines

end Storage

end Folio
