import Folio.Proofs.Storage.Writing
import Folio.Proofs.Text.Scan

/-! The names of paths: the parts that a text spells, the stem of a name, and files that are named
anew beside others. -/
namespace Folio.Storage

namespace Path

/-- A text that a path can have as one of its parts. -/
structure IsPart (part : Text) : Prop where
  nonempty : part ≠ []
  proper : part ≠ ['.']
  undivided : '/' ∉ part

instance (part : Text) : Decidable (IsPart part) :=
  decidable_of_iff (part ≠ [] ∧ part ≠ ['.'] ∧ '/' ∉ part)
    ⟨fun h => ⟨h.1, h.2.1, h.2.2⟩, fun h => ⟨h.nonempty, h.proper, h.undivided⟩⟩

theorem isPart_of_mem_ofText {s part : Text} (member : part ∈ (ofText s).parts) : IsPart part := by
  obtain ⟨piece, kept⟩ := List.mem_filter.mp member
  obtain ⟨nonempty, proper⟩ : part ≠ [] ∧ part ≠ ['.'] := by simpa using kept
  exact ⟨nonempty, proper, Text.not_mem_of_mem_splitOn piece⟩

theorem anchorOf_of_not_mem {s : Text} (undivided : '/' ∉ s) : anchorOf s = .here := by
  cases s with
  | nil => rfl
  | cons c s =>
    have other : c ≠ '/' := fun same => undivided (by simp [same])
    unfold anchorOf
    split <;> simp_all

/-- A part by itself is a path of one part. -/
theorem IsPart.ofText {part : Text} (h : IsPart part) : Path.ofText part = ⟨.here, [part]⟩ := by
  rw [Path.ofText, anchorOf_of_not_mem h.undivided, Text.splitOn_of_not_mem h.undivided]
  simp [h.nonempty, h.proper]

theorem name_mem_parts {p : Path} (named : p.parts ≠ []) : p.name ∈ p.parts := by
  rw [name, List.getLast?_eq_some_getLast named]
  exact List.getLast_mem named

@[simp] theorem name_withName (p : Path) (name : Text) : (p.withName name).name = name := by
  simp [withName, Path.name]

@[simp] theorem parent_withName (p : Path) (name : Text) :
    (p.withName name).parent = p.parent := by
  simp [withName, parent]

/-- The rule for the stem of a name: what stands before the last dot, if something stands on both
sides of it, and otherwise the whole name. -/
inductive IsStem (name : Text) : Text → Prop
  | cut {before after : Text} : name = before ++ '.' :: after → '.' ∉ after → before ≠ [] →
      after ≠ [] → IsStem name before
  | whole : (∀ before after, name = before ++ '.' :: after → '.' ∉ after →
      before = [] ∨ after = []) → IsStem name name

theorem isStem_stem (p : Path) : IsStem p.name p.stem := by
  unfold stem
  split
  · next before after found =>
    obtain ⟨split, last⟩ := Text.cutAtLast?_eq_some_iff.mp found
    split
    · next short =>
      refine .whole fun before' after' split' last' => ?_
      rw [Text.cutAtLast?_eq_some_iff.mpr ⟨split', last'⟩] at found
      cases found
      simpa using short
    · next long =>
      simp only [Bool.or_eq_true, List.isEmpty_iff, not_or] at long
      exact .cut split last long.1 long.2
  · next missing =>
    refine .whole fun before after split last => ?_
    rw [Text.cutAtLast?_eq_some_iff.mpr ⟨split, last⟩] at missing
    cases missing

theorem IsStem.isPrefix {name stem : Text} (h : IsStem name stem) : stem <+: name := by
  cases h with
  | cut split => exact ⟨_, split.symm⟩
  | whole => exact List.prefix_refl _

/-- A name with two dots behind its stem is not the name that the stem was taken from. -/
theorem IsStem.append_ne {name stem word : Text} (h : IsStem name stem) (dotted : '.' ∈ word) :
    stem ++ '.' :: word ≠ name := by
  intro same
  cases h with
  | cut split last =>
    rw [split, List.append_cancel_left_eq] at same
    exact last ((List.cons.inj same).2 ▸ dotted)
  | whole => simp at same

theorem withName_name {p : Path} (named : p.parts ≠ []) : p.withName p.name = p := by
  rw [withName, name, List.getLast?_eq_some_getLast named, Option.getD_some,
    List.dropLast_append_getLast named]

end Path

namespace FileSystem

theorem destination_withName (p : Path) (name : Text) :
    destination (p.withName name) = enter (destination p.parent) name := by
  rw [destination, Path.withName, List.foldl_append]
  rfl

theorem destination_of_named {p : Path} (named : p.parts ≠ []) :
    destination p = enter (destination p.parent) p.name := by
  rw [← destination_withName, Path.withName_name named]

/-- A name that is not the way upwards leads to where no other name leads. -/
theorem enter_ne (l : Location) {new old : Text} (proper : new ≠ upwards) (distinct : new ≠ old) :
    enter l new ≠ enter l old := by
  intro same
  rw [enter, if_pos proper] at same
  unfold enter at same
  split at same
  · exact distinct (List.singleton_inj.mp (List.append_cancel_left same))
  · split at same
    · simp at same
    · split at same
      · exact proper (List.singleton_inj.mp (List.append_cancel_left same))
      · have lengths := congrArg List.length same
        simp only [List.length_append, List.length_singleton, List.length_dropLast] at lengths
        omega

theorem destination_withName_ne {p : Path} (named : p.parts ≠ []) {name : Text}
    (proper : name ≠ upwards) (distinct : name ≠ p.name) :
    destination (p.withName name) ≠ destination p := by
  rw [destination_withName, destination_of_named named]
  exact enter_ne _ proper distinct

/-- The path of a file that can be read has a name: without one it leads to a directory. -/
theorem parts_ne_nil_of_read {fs : FileSystem} {p : Path} {bytes : Text.Utf8.Bytes}
    (readable : fs.read p = .ok bytes) : p.parts ≠ [] := by
  intro unnamed
  have found := (find_eq_ok_iff.mp (read_eq_ok_iff.mp readable)).2
  rw [destination, unnamed, List.foldl_nil, get?_base] at found
  cases found

end FileSystem

end Folio.Storage
