import Folio.Json.Scan

/-! Values from JSON text. -/
namespace Folio.Json

/-- Reads the items of an array from the start of one. The bound is the length of a text that holds
them. -/
def readItems (item : Text → Reading WideValue) : Nat → Text → Reading (List WideValue)
  | 0, s => breachAt .missingValue s
  | bound + 1, s =>
    match item s with
    | .error fault => .error fault
    | .ok (value, s) =>
      match skipBlank s with
      | ']' :: rest => .ok ([value], rest)
      | ',' :: rest =>
        (readItems item bound (skipBlank rest)).map fun (values, rest) => (value :: values, rest)
      | s => breachAt .missingComma s

def readArray (item : Text → Reading WideValue) (s : Text) : Reading WideValue :=
  match skipBlank s with
  | ']' :: rest => .ok (.seq [], rest)
  | s => (readItems item (s.length + 1) s).map fun (values, rest) => (.seq values, rest)

/-- Reads the members of an object from the name of one, into those before it. -/
def readMembers (item : Text → Reading WideValue) : Nat → Members WideText → Text → Reading (Members WideText)
  | 0, _, s => breachAt .missingName s
  | bound + 1, fields, s =>
    match s with
    | '"' :: rest =>
      match readString s rest with
      | .error fault => .error fault
      | .ok (name, s) =>
        match skipBlank s with
        | ':' :: rest =>
          match item (skipBlank rest) with
          | .error fault => .error fault
          | .ok (value, s) =>
            let fields := fields.set name value
            match skipBlank s with
            | '}' :: rest => .ok (fields, rest)
            | ',' :: rest => readMembers item bound fields (skipBlank rest)
            | s => breachAt .missingComma s
        | s => breachAt .missingColon s
    | s => breachAt .missingName s

def readObject (item : Text → Reading WideValue) (s : Text) : Reading WideValue :=
  match skipBlank s with
  | '}' :: rest => .ok (.map [], rest)
  | s => (readMembers item (s.length + 1) [] s).map fun (fields, rest) => (.map fields, rest)

/-- Reads one value whose parts are nested at most `depth` deep. -/
def readValue : Nat → Text → Reading WideValue
  | 0, s =>
    match s with
    | '{' :: _ => .error (.tooDeep false)
    | '[' :: _ => .error (.tooDeep true)
    | s => readLeaf s
  | depth + 1, s =>
    match s with
    | '{' :: rest => readObject (readValue depth) rest
    | '[' :: rest => readArray (readValue depth) rest
    | s => readLeaf s

/-- The value that a document denotes, whose arrays and objects are followed a given depth into one
another. -/
def read (depth : Nat) (document : Text) : Except Fault WideValue :=
  match document with
  | '\ufeff' :: _ => breachAt .byteOrderMark document
  | _ =>
    match readValue depth (skipBlank document) with
    | .error fault => .error fault
    | .ok (value, rest) =>
      match skipBlank rest with
      | [] => .ok value
      | rest => breachAt .extraData rest

end Folio.Json
