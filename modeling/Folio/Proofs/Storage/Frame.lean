import Folio.Proofs.Storage.Writing

/-! What a change of the file system leaves as it was: the kinds of entries, the ways that paths
take, and the files at other places. -/
namespace Folio.Storage.FileSystem

open Text.Utf8 (Bytes)

/-- Entries keep their kind: directories stay, and files stay files with perhaps other bytes. -/
structure Grown (fs fs' : FileSystem) : Prop where
  directory : ∀ q, fs.get? q = some .directory → fs'.get? q = some .directory
  file : ∀ q, (∃ bytes, fs.get? q = some (.file bytes)) → ∃ bytes, fs'.get? q = some (.file bytes)

/-- Moreover the file at one place, or the lack of one, is as before. -/
structure Undisturbed (l : Location) (fs fs' : FileSystem) : Prop extends Grown fs fs' where
  same : ∀ bytes, fs'.get? l = some (.file bytes) ↔ fs.get? l = some (.file bytes)

/-- Moreover whatever is at one place, or that nothing is there, is as before. -/
structure Steady (l : Location) (fs fs' : FileSystem) : Prop extends Grown fs fs' where
  same : fs'.get? l = fs.get? l

/-- Something stands where a path would lead if the directories on its way were all there. -/
def Hidden (fs : FileSystem) (p : Path) : Prop :=
  fs.locate p = .error .missing ∧ fs.get? (destination p) ≠ none

section Grown

variable {fs fs' fs'' : FileSystem} {l q : Location} {bytes : Bytes}

theorem Undisturbed.refl (l : Location) (fs : FileSystem) : Undisturbed l fs fs :=
  ⟨⟨fun _ => id, fun _ => id⟩, fun _ => .rfl⟩

theorem Undisturbed.trans (first : Undisturbed l fs fs') (second : Undisturbed l fs' fs'') :
    Undisturbed l fs fs'' where
  directory q found := second.directory q (first.directory q found)
  file q found := second.file q (first.file q found)
  same bytes := (second.same bytes).trans (first.same bytes)

theorem Steady.refl (l : Location) (fs : FileSystem) : Steady l fs fs :=
  ⟨⟨fun _ => id, fun _ => id⟩, rfl⟩

theorem Steady.trans (first : Steady l fs fs') (second : Steady l fs' fs'') :
    Steady l fs fs'' where
  directory q found := second.directory q (first.directory q found)
  file q found := second.file q (first.file q found)
  same := second.same.trans first.same

theorem Steady.undisturbed (steady : Steady l fs fs') : Undisturbed l fs fs' where
  toGrown := steady.toGrown
  same bytes := by rw [steady.same]

theorem Widened.grown {places : List Location} (wider : Widened places fs fs') :
    Grown fs fs' where
  directory q found := by
    obtain same | ⟨-, nothing, -⟩ := wider q
    · rwa [same]
    · simp [nothing] at found
  file q := Exists.imp fun bytes => (wider.file_iff q bytes).mpr

theorem Widened.undisturbed {places : List Location} (wider : Widened places fs fs')
    (l : Location) : Undisturbed l fs fs' := ⟨wider.grown, wider.file_iff l⟩

theorem Widened.steady {places : List Location} (wider : Widened places fs fs')
    (outside : l ∉ places) : Steady l fs fs' :=
  ⟨wider.grown, (wider l).resolve_right fun inside => outside inside.1⟩

theorem steady_put (vacant : fs.get? q ≠ some .directory) (elsewhere : q ≠ l) :
    Steady l fs (fs.put q (.file bytes)) where
  directory other found := by
    have distinct : other ≠ q := fun same => vacant (same ▸ found)
    rwa [get?_put_of_ne distinct]
  file other found := by
    by_cases same : other = q
    · subst same
      exact ⟨bytes, get?_put_self (isBase_eq_false_of_get? vacant) _⟩
    · rwa [get?_put_of_ne same]
  same := get?_put_of_ne elsewhere.symm _

end Grown

section Paths

variable {fs fs' : FileSystem} {p : Path}

/-- A walk that ends or is stopped by a file takes the same way later. -/
theorem Grown.walk_eq (grown : Grown fs fs') {l : Location} {parts : List Text}
    (known : fs.walk l parts ≠ .error .missing) : fs'.walk l parts = fs.walk l parts := by
  induction parts generalizing l with
  | nil => rfl
  | cons part parts ih =>
    rw [walk] at known ⊢
    rw [walk]
    cases found : fs.get? l with
    | none => simp [found] at known
    | some e => cases e with
      | file bytes =>
        obtain ⟨bytes', still⟩ := grown.file l ⟨bytes, found⟩
        simp only [still]
      | directory =>
        simp only [found] at known
        simp only [grown.directory l found]
        exact ih known

theorem Grown.locate_eq (grown : Grown fs fs') (known : fs.locate p ≠ .error .missing) :
    fs'.locate p = fs.locate p := grown.walk_eq known

theorem Grown.contains (grown : Grown fs fs') (there : fs.contains p = true) :
    fs'.contains p = true := by
  obtain ⟨e, found⟩ := contains_iff.mp there
  obtain ⟨located, entry⟩ := find_eq_ok_iff.mp found
  have located' : fs'.locate p = .ok (destination p) := by
    rw [grown.locate_eq (by simp [located]), located]
  obtain ⟨e', still⟩ : ∃ e', fs'.get? (destination p) = some e' := by
    cases e with
    | file bytes => exact (grown.file _ ⟨bytes, entry⟩).imp' Entry.file fun _ => id
    | directory => exact ⟨.directory, grown.directory _ entry⟩
  exact contains_iff.mpr ⟨e', find_eq_ok_iff.mpr ⟨located', still⟩⟩

/-- Directories that are made elsewhere only shorten what is missing. -/
theorem Grown.pending_le (grown : Grown fs fs') (anchor : Anchor) (parts : List Text) :
    fs'.pending anchor parts ≤ fs.pending anchor parts := by
  induction parts with
  | nil => exact Nat.le_refl 0
  | cons part parts ih =>
    rw [pending, pending]
    by_cases lost : fs.locate ⟨anchor, (part :: parts).reverse⟩ = .error .missing
    · rw [if_pos lost]
      split
      · exact Nat.succ_le_succ ih
      · exact Nat.zero_le _
    · rw [grown.locate_eq lost, if_neg lost]
      exact Nat.zero_le _

theorem Grown.hasRoom (grown : Grown fs fs') {room : Nat} (enough : fs.HasRoom room p) :
    fs'.HasRoom room p := Nat.le_trans (grown.pending_le _ _) enough

theorem not_hidden_of_read {bytes : Bytes} (readable : fs.read p = .ok bytes) : ¬ Hidden fs p := by
  rintro ⟨lost, -⟩
  rw [(find_eq_ok_iff.mp (read_eq_ok_iff.mp readable)).1] at lost
  cases lost

theorem Steady.not_hidden (steady : Steady (destination p) fs fs') (visible : ¬ Hidden fs p) :
    ¬ Hidden fs' p := by
  rintro ⟨lost, there⟩
  refine visible ⟨?_, steady.same ▸ there⟩
  by_contra known
  exact known (steady.locate_eq known ▸ lost)

theorem Undisturbed.read_iff (undisturbed : Undisturbed (destination p) fs fs')
    (visible : ¬ Hidden fs p) (bytes : Bytes) : fs'.read p = .ok bytes ↔ fs.read p = .ok bytes := by
  simp only [read_eq_ok_iff, find_eq_ok_iff, undisturbed.same]
  by_cases lost : fs.locate p = .error .missing
  · have nothing : fs.get? (destination p) ≠ some (.file bytes) := fun there =>
      visible ⟨lost, by simp [there]⟩
    exact iff_of_false (fun found => nothing found.2) fun found => nothing found.2
  · rw [undisturbed.locate_eq lost]

/-- What is found at a path, if anything is, is what was found there before. -/
theorem Steady.find_iff (steady : Steady (destination p) fs fs') (visible : ¬ Hidden fs p)
    (e : Entry) : fs'.find p = .ok e ↔ fs.find p = .ok e := by
  simp only [find_eq_ok_iff, steady.same]
  by_cases lost : fs.locate p = .error .missing
  · have nothing : fs.get? (destination p) ≠ some e := fun there =>
      visible ⟨lost, by simp [there]⟩
    exact iff_of_false (fun found => nothing found.2) fun found => nothing found.2
  · rw [steady.locate_eq lost]

end Paths

section Operations

variable {fs fs' : FileSystem} {p : Path} {l : Location} {bytes : Bytes} {room : Nat}

/-- First the directories are made, and then the file is written or nothing else happens. -/
theorem writeWithParents_cases (room : Nat) (fs : FileSystem) (p : Path) (bytes : Bytes) :
    ∃ made, Widened (way p.parent) fs made ∧
      ((∃ o, fs.writeWithParents room p bytes = (made, .error o)) ∨
        ∃ fs', made.write p bytes = .ok fs' ∧
          fs.writeWithParents room p bytes = (fs', .ok ())) := by
  have widened : Widened (way p.parent) fs (fs.makeDirectories room p.parent).1 := by
    have above := widened_makeUpTo p.parent.anchor room p.parent.parts.reverse fs
    rwa [List.reverse_reverse] at above
  refine ⟨_, widened, ?_⟩
  unfold writeWithParents
  obtain ⟨made, o | ⟨⟨⟩⟩⟩ := fs.makeDirectories room p.parent
  · exact .inl ⟨o, rfl⟩
  · cases written : made.write p bytes with
    | error e => exact .inl ⟨.refused e, by simp only [written]⟩
    | ok fs' => exact .inr ⟨fs', rfl, by simp only [written]⟩

theorem undisturbed_writeWithParents (elsewhere : destination p ≠ l) (bytes : Bytes) :
    Undisturbed l fs (fs.writeWithParents room p bytes).1 := by
  obtain ⟨made, widened, ⟨o, same⟩ | ⟨fs', written, same⟩⟩ :=
    writeWithParents_cases room fs p bytes
  · rw [same]
    exact widened.undisturbed l
  · obtain ⟨-, vacant, rfl⟩ := write_eq_ok_iff.mp written
    rw [same]
    exact (widened.undisturbed l).trans (steady_put vacant elsewhere).undisturbed

theorem steady_writeWithParents (outside : l ∉ way p) (bytes : Bytes) :
    Steady l fs (fs.writeWithParents room p bytes).1 := by
  have above : l ∉ way p.parent := fun member => outside (way_parent_subset p member)
  have elsewhere : destination p ≠ l := fun same =>
    outside (same ▸ destination_mem_way p)
  obtain ⟨made, widened, ⟨o, same⟩ | ⟨fs', written, same⟩⟩ :=
    writeWithParents_cases room fs p bytes
  · rw [same]
    exact widened.steady above
  · obtain ⟨-, vacant, rfl⟩ := write_eq_ok_iff.mp written
    rw [same]
    exact (widened.steady above).trans (steady_put vacant elsewhere)

theorem widened_of_writeWithParents_error {o : Obstacle}
    (failed : fs.writeWithParents room p bytes = (fs', .error o)) :
    Widened (way p.parent) fs fs' := by
  obtain ⟨made, widened, ⟨o, same⟩ | ⟨fs', -, same⟩⟩ := writeWithParents_cases room fs p bytes
  · obtain ⟨rfl, -⟩ := Prod.mk.inj (failed.symm.trans same)
    exact widened
  · rw [same] at failed
    cases failed

end Operations

end Folio.Storage.FileSystem
