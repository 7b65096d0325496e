import Folio.Text.Class

/-! Words of a command line told apart: options, their spellings and abbreviations, and plain
words. -/
namespace Folio.Command

inductive Stop
  | help
  | usage
  deriving DecidableEq, Repr

inductive Effect (σ : Type)
  | help
  | flag (set : σ → σ)
  | value (set : Text → σ → Except Stop σ)

abbrev Options (σ : Type) := List (Text × Effect σ)

inductive Attachment
  | none
  | joined (s : Text)
  | assigned (s : Text)
  deriving DecidableEq, Repr

inductive Token (σ : Type)
  | word (s : Text)
  | option (effect : Effect σ) (attachment : Attachment)
  | unknown
  | separator

def abbreviated {σ : Type} (options : Options σ) (s : Text) : List (Token σ) :=
  match s with
  | '-' :: '-' :: _ =>
    let (start, attachment) : Text × Attachment := match Text.cutAt? '=' s with
      | some (start, value) => (start, .assigned value)
      | none => (s, .none)
    options.filterMap fun (name, effect) =>
      if start.isPrefixOf name then some (.option effect attachment) else none
  | _ =>
    options.filterMap fun (name, effect) =>
      if name = s.take 2 then some (.option effect (.joined (s.drop 2)))
      else if s.isPrefixOf name then some (.option effect .none)
      else none

def isNegativeNumber (s : Text) : Bool :=
  match s with
  | '-' :: rest =>
    match rest.dropWhile Text.isDigit with
    | [] => !rest.isEmpty
    | '.' :: fraction => !fraction.isEmpty && fraction.all Text.isDigit
    | _ => false
  | _ => false

def classify {σ : Type} (options : Options σ) (s : Text) : Except Stop (Token σ) :=
  match s with
  | '-' :: _ :: _ =>
    match options.lookup s with
    | some effect => .ok (.option effect .none)
    | none =>
      let assigned : Option (Token σ) := do
        let (name, value) ← Text.cutAt? '=' s
        let effect ← options.lookup name
        return .option effect (.assigned value)
      match assigned, abbreviated options s with
      | some token, _ => .ok token
      | none, [token] => .ok token
      -- an abbreviation of more than one option
      | none, _ :: _ :: _ => .error .usage
      | none, [] => .ok (if isNegativeNumber s || s.contains ' ' then .word s else .unknown)
  | _ => .ok (.word s)

def separatorWord : Text := ['-', '-']

/-- The words of a command line with what they are. Behind a separator there are no options; a
second separator is refused. -/
def tokens {σ : Type} (options : Options σ) : List Text → Except Stop (List (Text × Token σ))
  | [] => .ok []
  | s :: rest =>
    if s = separatorWord then
      .ok ((s, .separator) :: rest.map fun word =>
        (word, if word = separatorWord then .unknown else .word word))
    else
      match classify options s with
      | .error stop => .error stop
      | .ok token => (tokens options rest).map ((s, token) :: ·)

/-- What asking for help leads to when something is attached to the option. -/
def helpWith : Attachment → Stop
  | .none => .help
  | .assigned _ => .usage
  | .joined s => cluster s
where
  cluster : Text → Stop
    | '-' :: _ => .usage
    | 'h' :: '=' :: _ => .usage
    | 'h' :: rest => cluster rest
    | _ => .help

end Folio.Command
