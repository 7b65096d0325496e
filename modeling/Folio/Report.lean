import Folio.Value.Basic

/-! Reports of problems that a user can act on: a stable code, a message and named details. -/
namespace Folio

/-- What a problem is about. A general report carries a code of its own. -/
inductive ReportKind
  | general (code : Text) (transient : Bool)
  | configuration
  | dataValidation
  | userInput
  | storage
  | templateSyntax
  deriving DecidableEq, Repr

structure Report where
  kind : ReportKind
  message : Text
  context : Fields

def ReportKind.code : ReportKind → Text
  | .general code _ => code
  | .configuration => "CONFIGURATION_ERROR".toList
  | .dataValidation => "DATA_VALIDATION_ERROR".toList
  | .userInput => "USER_INPUT_ERROR".toList
  | .storage => "STORAGE_ERROR".toList
  | .templateSyntax => "TEMPLATE_SYNTAX_ERROR".toList

/-- Whether the same request may succeed later. -/
def ReportKind.transient : ReportKind → Bool
  | .general _ transient => transient
  | .storage => true
  | _ => false

namespace Report

def line (r : Report) : Text := r.kind.code ++ [':', ' '] ++ r.message

def toFields (r : Report) : Fields :=
  [("error_code".toList, .text r.kind.code), ("message".toList, .text r.message),
    ("context".toList, .map r.context), ("is_transient".toList, .bool r.kind.transient)]

def ofMarker (message marker : Text) (offset : Nat) : Report :=
  ⟨.templateSyntax, message, [("marker".toList, .text marker), ("position".toList, .int offset)]⟩

end Report

end Folio
