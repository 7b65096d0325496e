import Folio.Decimal.Numeral
import Folio.Json.Fault
import Folio.Text.Wide
import Folio.Value.Basic

/-! The leaves of a JSON text: blanks, strings, numbers and the named constants. -/
namespace Folio.Json

/-- What a JSON text denotes: its strings may hold halves of surrogate pairs. -/
abbrev WideValue := Tree WideText

abbrev Reading (α : Type) := Except Fault (α × Text)

def isBlank (c : Char) : Bool := c == ' ' || c == '\t' || c == '\n' || c == '\r'

def skipBlank (s : Text) : Text := s.dropWhile isBlank

def breachAt {α : Type} (b : Breach) (s : Text) : Except Fault α := .error (.breach b s.length)

def simpleEscape? : Char → Option Char
  | '"' => some '"'
  | '\\' => some '\\'
  | '/' => some '/'
  | 'b' => some '\x08'
  | 'f' => some '\x0c'
  | 'n' => some '\n'
  | 'r' => some '\r'
  | 't' => some '\t'
  | _ => none

def fourHex? (a b c d : Char) : Option Nat := do
  let w ← Text.hexValue? a
  let x ← Text.hexValue? b
  let y ← Text.hexValue? c
  let z ← Text.hexValue? d
  return ((w * 16 + x) * 16 + y) * 16 + z

/-- The low half of a surrogate pair, which follows as an escape of its own. A pair at the very end
of the text is not joined. -/
def lowHalf? (s : Text) : Except Fault (Option Nat) :=
  match s with
  | '\\' :: 'u' :: a :: b :: c :: d :: _ :: _ =>
    match fourHex? a b c d with
    | none => breachAt .badUnicodeEscape s.tail
    | some n => .ok (if 0xdc00 ≤ n ∧ n < 0xe000 then some n else none)
  | _ => .ok none

/-- Reads an escape by code unit from its `u` on. At least one character has to follow the digits.
Half of a pair that the other half does not follow stays what it is. -/
def unicodeEscape (s : Text) : Reading CodePoint :=
  match s with
  | _ :: a :: b :: c :: d :: e :: rest =>
    match fourHex? a b c d with
    | none => breachAt .badUnicodeEscape s
    | some n =>
      if 0xd800 ≤ n ∧ n < 0xdc00 then
        match lowHalf? (e :: rest) with
        | .error fault => .error fault
        | .ok (some low) =>
          let code := 0x10000 + (n - 0xd800) * 0x400 + (low - 0xdc00)
          .ok (.char (Char.ofNat code), rest.drop 5)
        | .ok none => .ok (.ofUnit n, e :: rest)
      else .ok (.ofUnit n, e :: rest)
  | _ => breachAt .badUnicodeEscape s

theorem length_of_unicodeEscape {s rest : Text} {c : CodePoint} (h : unicodeEscape s = .ok (c, rest)) :
    rest.length < s.length := by
  unfold unicodeEscape at h
  split at h
  · split at h
    · simp [breachAt] at h
    · split at h
      · split at h
        · contradiction
        · obtain ⟨_, rfl⟩ := Prod.mk.inj (Except.ok.inj h)
          simp only [List.length_drop, List.length_cons]
          omega
        · obtain ⟨_, rfl⟩ := Prod.mk.inj (Except.ok.inj h)
          simp only [List.length_cons]
          omega
      · obtain ⟨_, rfl⟩ := Prod.mk.inj (Except.ok.inj h)
        simp only [List.length_cons]
        omega
  · simp [breachAt] at h

/-- Reads the rest of a string after its opening quote, at which an unterminated string is
reported. -/
def readString (opening : Text) (s : Text) : Reading WideText :=
  match s with
  | [] => breachAt .unterminatedString opening
  | '"' :: rest => .ok ([], rest)
  | '\\' :: [] => breachAt .unterminatedString opening
  | '\\' :: 'u' :: tail =>
    match _escaped : unicodeEscape ('u' :: tail) with
    | .error fault => .error fault
    | .ok (c, rest) => (readString opening rest).map fun (t, rest) => (c :: t, rest)
  | '\\' :: e :: rest =>
    match simpleEscape? e with
    | none => breachAt .unknownEscape s
    | some c => (readString opening rest).map fun (t, rest) => (.char c :: t, rest)
  | c :: rest =>
    if c.toNat < 0x20 then breachAt .controlCharacter s
    else (readString opening rest).map fun (t, rest) => (.char c :: t, rest)
termination_by s.length
decreasing_by
  · have shorter := length_of_unicodeEscape _escaped
    simp only [List.length_cons] at shorter ⊢
    omega
  · simp only [List.length_cons]
    omega
  · simp

def asciiDigit? (c : Char) : Option Nat :=
  if '0' ≤ c ∧ c ≤ '9' then some (c.toNat - '0'.toNat) else none

def readDigits : Text → List Nat × Text
  | [] => ([], [])
  | c :: s =>
    match asciiDigit? c with
    | some d => let (ds, rest) := readDigits s; (d :: ds, rest)
    | none => ([], c :: s)

/-- The fraction of a number: a point with at least one digit behind it. -/
def readFraction? : Text → Option (List Nat × Text)
  | '.' :: s => match readDigits s with
    | ([], _) => none
    | found => some found
  | _ => none

/-- The exponent of a number: a letter, perhaps a sign, and at least one digit. -/
def readExponent? : Text → Option (Int × Text)
  | c :: s =>
    if c = 'e' ∨ c = 'E' then
      let (sign, s) : Int × Text := match s with
        | '-' :: s => (-1, s)
        | '+' :: s => (1, s)
        | _ => (1, s)
      match readDigits s with
      | ([], _) => none
      | (ds, rest) => some (sign * Decimal.ofDigits ds, rest)
    else none
  | [] => none

def integerDigitLimit : Nat := 4300

/-- Reads a number whose text starts at `start`; a number without fraction and exponent is an
integer. -/
def readNumber (start : Text) : Reading WideValue :=
  let (negative, s) := match start with
    | '-' :: s => (true, s)
    | _ => (false, start)
  let whole? : Option (List Nat × Text) := match readDigits s with
    | ([], _) => none
    | (0 :: _, _) => some ([0], s.tail)
    | found => some found
  match whole? with
  | none => breachAt .missingValue start
  | some (whole, s) =>
    let fraction? := readFraction? s
    let (fraction, s) := fraction?.getD ([], s)
    let exponent? := readExponent? s
    let (exponent, s) := exponent?.getD (0, s)
    if fraction?.isSome || exponent?.isSome then
      .ok (.float (Decimal.Numeral.toBinary64 ⟨negative, whole, fraction, exponent⟩), s)
    else if whole.length > integerDigitLimit then .error (.integerTooLong whole.length)
    else
      let n : Int := Decimal.ofDigits whole
      .ok (.int (if negative then -n else n), s)

def constants : List (Text × WideValue) :=
  [("null".toList, .null), ("true".toList, .bool true), ("false".toList, .bool false),
    ("NaN".toList, .float .nan), ("Infinity".toList, .float (.infinity false)),
    ("-Infinity".toList, .float (.infinity true))]

def readConstant? (s : Text) : Option (WideValue × Text) :=
  constants.findSome? fun (name, value) => (Text.dropPrefix? name s).map fun rest => (value, rest)

def readLeaf (s : Text) : Reading WideValue :=
  match s with
  | '"' :: rest => (readString s rest).map fun (t, rest) => (.text t, rest)
  | _ =>
    match readConstant? s with
    | some found => .ok found
    | none => readNumber s

end Folio.Json
