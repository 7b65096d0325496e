import Folio.Template.Node
import Folio.Text.Blank
import Folio.Text.Pattern
import Folio.Text.Class

/-! Markers, the pieces of a template that are not literal text, and the cut of a template into
markers and the text between them. -/
namespace Folio.Template

open Text (isBlank isWord stripLeft dropPrefix? run? Pattern length_of_dropPrefix? length_of_run?)

inductive Marker
  | slot (path : Text)
  | opens (head : Head)
  | closes (kind : BlockKind)
  deriving DecidableEq, Repr

def isPathChar (c : Char) : Bool := isWord c || c == '.'

namespace Marker

/-- The end of a block marker, after optional white space. -/
def tagEnd? (s : Text) : Option Text := dropPrefix? ['%', '}'] (stripLeft s)

def readLoop? (s : Text) : Option (Marker × Text) := do
  let s ← dropPrefix? "for".toList s
  let (_, s) ← run? isBlank s
  let (name, s) ← run? isWord s
  let (_, s) ← run? isBlank s
  let s ← dropPrefix? "in".toList s
  let (_, s) ← run? isBlank s
  let (path, s) ← run? isPathChar s
  let s ← tagEnd? s
  return (.opens (.loop name path), s)

def readCondition? (s : Text) : Option (Marker × Text) := do
  let s ← dropPrefix? "if".toList s
  let (_, s) ← run? isBlank s
  let (path, s) ← run? isPathChar s
  let s ← tagEnd? s
  return (.opens (.condition path), s)

def readEnd? (word : Text) (kind : BlockKind) (s : Text) : Option (Marker × Text) := do
  let s ← dropPrefix? word s
  let s ← tagEnd? s
  return (.closes kind, s)

def readSlot? (s : Text) : Option (Marker × Text) := do
  let (path, s) ← run? isPathChar s
  let s ← dropPrefix? ['}', '}'] (stripLeft s)
  return (.slot path, s)

/-- The marker at the very start of a text, and the text after it. -/
def read? : Text → Option (Marker × Text)
  | '{' :: '{' :: s => readSlot? (stripLeft s)
  | '{' :: '%' :: s =>
    let s := stripLeft s
    (readLoop? s).or <| (readEnd? "endfor".toList .loop s).or <| (readCondition? s).or <|
      readEnd? "endif".toList .condition s
  | _ => none

theorem length_of_tagEnd? {s r : Text} (h : tagEnd? s = some r) : r.length ≤ s.length :=
  Nat.le_trans (length_of_dropPrefix? h) (Text.length_stripLeft_le s)

theorem length_of_readLoop? {s r : Text} {m : Marker} (h : readLoop? s = some (m, r)) :
    r.length ≤ s.length := by
  simp only [readLoop?, Option.bind_eq_bind, Option.bind_eq_some_iff, Option.pure_def,
    Prod.exists] at h
  obtain ⟨a, ha, _, b, hb, _, c, hc, _, d, hd, e, he, _, f, hf, _, g, hg, t, ht, out⟩ := h
  cases out
  have h₁ := length_of_dropPrefix? ha
  have h₂ := length_of_run? hb
  have h₃ := length_of_run? hc
  have h₄ := length_of_run? hd
  have h₅ := length_of_dropPrefix? he
  have h₆ := length_of_run? hf
  have h₇ := length_of_run? hg
  have h₈ := length_of_tagEnd? ht
  omega

theorem length_of_readCondition? {s r : Text} {m : Marker} (h : readCondition? s = some (m, r)) :
    r.length ≤ s.length := by
  simp only [readCondition?, Option.bind_eq_bind, Option.bind_eq_some_iff, Option.pure_def,
    Prod.exists] at h
  obtain ⟨a, ha, _, b, hb, _, c, hc, t, ht, out⟩ := h
  cases out
  have h₁ := length_of_dropPrefix? ha
  have h₂ := length_of_run? hb
  have h₃ := length_of_run? hc
  have h₄ := length_of_tagEnd? ht
  omega

theorem length_of_readEnd? {word s r : Text} {kind : BlockKind} {m : Marker}
    (h : readEnd? word kind s = some (m, r)) : r.length ≤ s.length := by
  simp only [readEnd?, Option.bind_eq_bind, Option.bind_eq_some_iff, Option.pure_def] at h
  obtain ⟨a, ha, t, ht, out⟩ := h
  cases out
  exact Nat.le_trans (length_of_tagEnd? ht) (length_of_dropPrefix? ha)

theorem length_of_readSlot? {s r : Text} {m : Marker} (h : readSlot? s = some (m, r)) :
    r.length ≤ s.length := by
  simp only [readSlot?, Option.bind_eq_bind, Option.bind_eq_some_iff, Option.pure_def,
    Prod.exists] at h
  obtain ⟨_, a, ha, t, ht, out⟩ := h
  cases out
  have h₁ := length_of_run? ha
  have h₂ := length_of_dropPrefix? ht
  have h₃ := Text.length_stripLeft_le a
  omega

theorem length_of_read? {s r : Text} {m : Marker} (h : read? s = some (m, r)) :
    r.length < s.length := by
  unfold read? at h
  split at h
  · rename_i s
    have shorter := length_of_readSlot? h
    have stripped := Text.length_stripLeft_le s
    simp only [List.length_cons]
    omega
  · rename_i s
    have stripped := Text.length_stripLeft_le s
    simp only [Option.or_eq_some_iff] at h
    have shorter : r.length ≤ (stripLeft s).length := by
      rcases h with h | ⟨_, h | ⟨_, h | ⟨_, h⟩⟩⟩
      · exact length_of_readLoop? h
      · exact length_of_readEnd? h
      · exact length_of_readCondition? h
      · exact length_of_readEnd? h
    simp only [List.length_cons]
    omega
  · contradiction

end Marker

/-- Markers, each with its spelling. -/
def markers : Pattern (Marker × Text) where
  read? s := (Marker.read? s).map fun (m, rest) => ((m, s.take (s.length - rest.length)), rest)
  shorter := by
    intro s rest a h
    simp only [Option.map_eq_some_iff] at h
    obtain ⟨⟨m, r⟩, found, out⟩ := h
    cases out
    exact Marker.length_of_read? found

end Folio.Template
