import Folio.Document.Compose
import Folio.Proofs.Markup.Unescaping

/-! Documents of the plain formats: what is shown is the exported text with its markup characters
escaped, and the exported text can be read back from it. -/
namespace Folio.Document

open Markup (Escaped escape unescape replaceEach marked_escape unescape_escape escape_injective
  escape_append escape_eq_replacements)
open Text (dropPrefix? dropPrefix?_eq_some)

def plainFormats : List Format := [.markdown, .csv, .txt]

theorem mem_plainFormats_iff (format : Format) : format ∈ plainFormats ↔ format.isHtml = false := by
  cases format <;> decide

/-- A shown text without the tags around it, its entities read. -/
def readShown? (shown : Text) : Option Text := do
  let s ← dropPrefix? "<pre>".toList shown
  let s ← dropPrefix? "</pre>".toList.reverse s.reverse
  return unescape s.reverse

theorem readShown?_escape (s : Text) :
    readShown? ("<pre>".toList ++ escape s ++ "</pre>".toList) = some s := by
  have front : dropPrefix? "<pre>".toList ("<pre>".toList ++ escape s ++ "</pre>".toList) =
      some (escape s ++ "</pre>".toList) :=
    dropPrefix?_eq_some.mpr (List.append_assoc _ _ _)
  have back : dropPrefix? "</pre>".toList.reverse (escape s ++ "</pre>".toList).reverse =
      some (escape s).reverse :=
    dropPrefix?_eq_some.mpr List.reverse_append
  simp only [readShown?, front, back, Option.bind_eq_bind, Option.bind_some, Option.pure_def,
    List.reverse_reverse, unescape_escape]

theorem ofValue_name (format : Format) : Format.ofValue (.text format.name) = .ok format := by
  cases format <;> rfl

theorem compose_name (nesting : Nat) (format : Format) (template data style : Text)
    (markup : Option Bool) : compose nesting template data style (.text format.name) markup =
      .ok (composeAs nesting format template data style markup) := by
  rw [compose, ofValue_name]
  rfl

/-- A document of a plain format, whatever it is made from. -/
def IsPlain (c : Composition) : Prop :=
  ∃ format ∈ plainFormats, ∃ nesting template data style markup,
    compose nesting template data style (.text format.name) markup = .ok c

theorem IsPlain.display {c : Composition} (h : IsPlain c) :
    c.display = "<pre>".toList ++ escape c.exported ++ "</pre>".toList := by
  obtain ⟨format, plain, nesting, template, data, style, markup, composed⟩ := h
  have fragment := (mem_plainFormats_iff format).mp plain
  rw [compose_name] at composed
  cases composed
  simp [composeAs, fragment]

theorem IsPlain.readShown? {c : Composition} (h : IsPlain c) :
    readShown? c.display = some c.exported := by
  rw [h.display]
  exact readShown?_escape c.exported

/-- Escaping loses nothing: its result holds no raw markup, can be read back, and is made character
by character. So what a document of a plain format shows tells what the document exports. -/
theorem plain_display_decodes :
    (∀ s, Escaped (escape s) ∧ unescape (escape s) = s) ∧
      Function.Injective escape ∧
      (∀ s t, escape (s ++ t) = escape s ++ escape t) ∧
      (∀ s, escape s = replaceEach '>' "&gt;".toList
        (replaceEach '<' "&lt;".toList (replaceEach '&' "&amp;".toList s))) ∧
      (∀ format ∈ plainFormats, ∀ nesting template data style markup,
        ∃ c, compose nesting template data style (.text format.name) markup = .ok c ∧
          c.exported = (expand nesting template data).1) ∧
      (∀ c, IsPlain c →
        c.display = "<pre>".toList ++ escape c.exported ++ "</pre>".toList ∧
          readShown? c.display = some c.exported) ∧
      ∀ c other, IsPlain c → IsPlain other → c.display = other.display →
        c.exported = other.exported := by
  refine ⟨fun s => ⟨(marked_escape s).escaped, unescape_escape s⟩, escape_injective, escape_append,
    escape_eq_replacements, ?_, fun c plain => ⟨plain.display, plain.readShown?⟩, ?_⟩
  · intro format plain nesting template data style markup
    refine ⟨_, compose_name nesting format template data style markup, ?_⟩
    simp [composeAs, (mem_plainFormats_iff format).mp plain]
  · intro c other plain plain' same
    have read := plain.readShown?
    rw [same, plain'.readShown?] at read
    exact (Option.some.inj read).symm

/-- An entity written in a template, and the same text brought by the data of another. -/
theorem plain_display_decodes_entity :
    let written : Composition := ⟨"<pre>&amp;amp;lt; &amp;l&lt;t;</pre>".toList,
      "&amp;lt; &l<t;".toList, "text/csv".toList, "csv".toList⟩
    let brought : Composition := ⟨"<pre>&amp;amp;lt; &amp;l&lt;t;</pre>".toList,
      "&amp;lt; &l<t;".toList, "text/plain".toList, "txt".toList⟩
    Format.csv ∈ plainFormats ∧ Format.txt ∈ plainFormats ∧
      (∃ c, compose 990 "&amp;lt; &l<t;".toList [] [] (.text "csv".toList) none = .ok c ∧
        c.exported = (expand 990 "&amp;lt; &l<t;".toList []).1) ∧
      IsPlain written ∧ IsPlain brought ∧ written.display = brought.display ∧
      readShown? written.display = some written.exported ∧
      written.exported = brought.exported := by
  intro written brought
  have csv : Format.csv ∈ plainFormats := by decide
  have txt : Format.txt ∈ plainFormats := by decide
  have first : composeAs 990 .csv "&amp;lt; &l<t;".toList [] [] none = written := by decide +kernel
  have second : composeAs 990 .txt "&amp;\x7b\x7b x \x7d\x7d".toList "x: lt; &l<t;".toList [] none =
      brought := by
    decide +kernel
  have plain : IsPlain written :=
    ⟨.csv, csv, _, _, _, _, _, (compose_name ..).trans (congrArg Except.ok first)⟩
  have plain' : IsPlain brought :=
    ⟨.txt, txt, _, _, _, _, _, (compose_name ..).trans (congrArg Except.ok second)⟩
  obtain ⟨_, _, _, _, composed, reads, determined⟩ := plain_display_decodes
  exact ⟨csv, txt, composed .csv csv _ _ _ _ _, plain, plain', rfl, (reads written plain).2,
    determined written brought plain plain' rfl⟩

end Folio.Document
