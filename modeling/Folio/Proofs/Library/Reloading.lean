import Folio.Proofs.Library.OrderedMap
import Folio.Proofs.Library.RoundTrip
import Folio.Proofs.Storage.Frame

/-! Libraries that live in a file between operations: what is loaded from a file that nothing has
disturbed, and what operations come to when each is followed by a write and a load. -/
namespace Folio.Library

open Storage (FileSystem Path)
open Storage.FileSystem

variable {room : Room} {fs fs' : FileSystem} {p : Path} {l l' : Library} {op : Operation}

/-- What is found at the place of a library, if anything is, decides what is loaded from there. -/
theorem load_congr (same : ∀ e, fs'.find p = .ok e ↔ fs.find p = .ok e) (fresh : Library) :
    load room fs' p fresh = load room fs p fresh := by
  suffices files : readFile room fs' p = readFile room fs p by
    unfold load
    rw [files]
  cases found : fs.find p with
  | error r =>
    have missing : ∃ r', fs'.find p = .error r' := by
      cases found' : fs'.find p with
      | error r' => exact ⟨r', rfl⟩
      | ok e => rw [(same e).mp found'] at found; cases found
    obtain ⟨r', found'⟩ := missing
    simp [readFile, contains, found, found', Except.isOk, Except.toBool]
  | ok e =>
    have found' := (same e).mpr found
    simp only [readFile, Storage.readText, contains, FileSystem.read, found, found']

section Seeded

theorem entries_seeded (l : Library) (kind : Kind) :
    l.seeded.entries kind = orDefaults kind (l.entries kind) := by
  cases kind <;> rfl

theorem Effect.seeded_of_save {kind : Kind} {name content : WideText}
    {outcome : Except Problem Answer} (effect : Effect l (.save kind name content) l' outcome)
    (seeded : l.seeded = l) : l'.seeded = l' := by
  have filled (kind : Kind) : l.entries kind ≠ [] := by
    rw [← seeded, entries_seeded]
    exact orDefaults_ne_nil _ _
  refine seeded_eq_self fun other => ?_
  by_cases same : other = kind
  · subst same
    cases effect with
    | replaces => simp
    | appends => simp
    | blank => exact filled other
  · rw [effect.entries_of_ne same]
    exact filled other

end Seeded

section Whole

theorem whole_defaults (kind : Kind) : ∀ snippet ∈ defaults kind, snippet.Whole := by
  cases kind <;> decide +kernel

theorem Whole.seeded (whole : l.Whole) : l.seeded.Whole := by
  intro kind
  have own := whole kind
  rw [entries_seeded]
  cases entries : l.entries kind with
  | nil => exact whole_defaults kind
  | cons first rest => rwa [entries] at own

/-- A library without halves of surrogate pairs takes none over from a text of characters. -/
theorem Whole.of_effect {outcome : Except Problem Answer} (whole : l.Whole)
    (stored : ∀ kind name content, op.Stores kind name content → name.Whole ∧ content.Whole)
    (effect : Effect l op l' outcome) : l'.Whole := by
  intro kind snippet member
  rcases (effect.change kind).mem member with before | stores
  · exact whole kind snippet before
  · exact stored kind _ _ stores

end Whole

section Flush

/-- When a library without halves of surrogate pairs is not written, at most directories on the way
are new. -/
theorem widened_of_flush_error {f : Failure} (whole : l.Whole)
    (failed : flush room fs p l = (fs', .error f)) : Widened (way p.parent) fs fs' := by
  unfold flush at failed
  rw [WideText.encode_of_whole ((whole_write l).mpr whole)] at failed
  dsimp only [Except.toOption, Option.getD] at failed
  split at failed
  · next refused =>
    cases failed
    exact widened_of_writeWithParents_error refused
  · cases failed

end Flush

/-- The library after operations that are each written to a file and loaded again. -/
def replay (l : Library) (ops : List Operation) : Library :=
  ops.foldl (fun l op => (l.perform op).1.seeded) l

end Folio.Library
