import Folio.Markup.Escape
import Folio.Text.Pattern

/-! Markup inside a line: code spans, emphasis and links. -/
namespace Folio.Markup

open Text (Pattern Piece run? dropPrefix? length_of_run? length_of_dropPrefix?)

def backtick : Char := '\x60'

def stars (n : Nat) : Text := List.replicate n '*'

/-- Text without stars between two runs of `n` stars. -/
def emphasis (n : Nat) : Pattern Text where
  read? s := do
    let s ← dropPrefix? (stars n) s
    let (inner, s) ← run? (· != '*') s
    let s ← dropPrefix? (stars n) s
    return (inner, s)
  shorter := by
    intro s rest inner h
    simp only [Option.bind_eq_bind, Option.bind_eq_some_iff, Option.pure_def, Prod.exists] at h
    obtain ⟨a, ha, i, b, hb, t, ht, out⟩ := h
    cases out
    have h₁ := length_of_dropPrefix? ha
    have h₂ := length_of_run? hb
    have h₃ := length_of_dropPrefix? ht
    omega

structure Link where
  label : Text
  url : Text

/-- A label in square brackets with an address in round brackets right behind it. -/
def links : Pattern Link where
  read? s := do
    let s ← dropPrefix? ['['] s
    let (label, s) ← run? (· != ']') s
    let s ← dropPrefix? [']', '('] s
    let (url, s) ← run? (· != ')') s
    let s ← dropPrefix? [')'] s
    return (⟨label, url⟩, s)
  shorter := by
    intro s rest link h
    simp only [Option.bind_eq_bind, Option.bind_eq_some_iff, Option.pure_def, Prod.exists] at h
    obtain ⟨a, ha, i, b, hb, c, hc, j, d, hd, t, ht, out⟩ := h
    cases out
    have h₁ := length_of_dropPrefix? ha
    have h₂ := length_of_run? hb
    have h₃ := length_of_dropPrefix? hc
    have h₄ := length_of_run? hd
    have h₅ := length_of_dropPrefix? ht
    omega

def codeSpans : Pattern Text where
  read? s := do
    let s ← dropPrefix? [backtick] s
    let (code, s) ← run? (· != backtick) s
    let s ← dropPrefix? [backtick] s
    return (code, s)
  shorter := by
    intro s rest code h
    simp only [Option.bind_eq_bind, Option.bind_eq_some_iff, Option.pure_def, Prod.exists] at h
    obtain ⟨a, ha, i, b, hb, t, ht, out⟩ := h
    cases out
    have h₁ := length_of_dropPrefix? ha
    have h₂ := length_of_run? hb
    have h₃ := length_of_dropPrefix? ht
    omega

def emphasize (n : Nat) (opening closing : String) (s : Text) : Text :=
  (emphasis n).replace (fun inner => opening.toList ++ inner ++ closing.toList) s

def Link.html (link : Link) : Text :=
  "<a href=\"".toList ++ link.url ++ "\">".toList ++ link.label ++ "</a>".toList

/-- Emphasis with the longest marks first, then links. -/
def renderPlain (s : Text) : Text :=
  links.replace Link.html <| emphasize 1 "<i>" "</i>" <| emphasize 2 "<b>" "</b>" <|
    emphasize 3 "<b><i>" "</i></b>" s

/-- Escaped text with its inline markup expanded. A code span keeps what is inside it. -/
def renderInline (s : Text) : Text :=
  (codeSpans.cut s).flatMap fun
    | .plain s => renderPlain s
    | .found code => "<code>".toList ++ escapeKeeping code ++ "</code>".toList

end Folio.Markup
