import Folio.Failure
import Folio.Storage.FileSystem
import Mathlib.Data.List.Basic

/-! A file that is written to a path is read there, and it can be written wherever no file stands on
the way and no directory at the end. -/
namespace Folio.Storage.FileSystem

open Text.Utf8 (Bytes)

section Put

variable {fs : FileSystem} {l : Location}

theorem get?_put_self (free : isBase l = false) (e : Entry) :
    (fs.put l e).get? l = some e := by
  simp [get?, put, free]

theorem lookup_filter_ne {other : Location} (distinct : other ≠ l)
    (entries : List (Location × Entry)) :
    (entries.filter fun entry => entry.1 ≠ l).lookup other = entries.lookup other := by
  induction entries with
  | nil => rfl
  | cons entry entries ih =>
    obtain ⟨place, e⟩ := entry
    by_cases removed : place = l
    · have skipped : (other == place) = false := by simpa [removed] using distinct
      rw [List.lookup_cons, skipped]
      simpa [removed] using ih
    · rw [List.filter_cons_of_pos (by simpa using removed), List.lookup_cons, List.lookup_cons, ih]

theorem get?_put_of_ne {other : Location} (distinct : other ≠ l) (e : Entry) :
    (fs.put l e).get? other = fs.get? other := by
  have skipped : (other == l) = false := by simpa using distinct
  simp only [get?, put, List.lookup_cons, skipped, lookup_filter_ne distinct]

theorem isBase_eq_false_of_get? (vacant : fs.get? l ≠ some .directory) : isBase l = false := by
  by_contra base
  exact vacant (by simp [get?, base])

end Put

/-- The current directory and the root are always there. -/
theorem get?_base (fs : FileSystem) (p : Path) : fs.get? (base p) = some .directory := by
  obtain ⟨anchor, parts⟩ := p
  cases anchor <;> rfl

section Walk

variable {fs : FileSystem}

/-- Where a path ends when nothing stops the walk. -/
def destination (p : Path) : Location := p.parts.foldl enter (base p)

/-- The places on the way along a path, its end included. -/
def way (p : Path) : List Location := places (base p) p.parts

theorem places_append_singleton (l : Location) (parts : List Text) (last : Text) :
    places l (parts ++ [last]) = places l parts ++ [(parts ++ [last]).foldl enter l] := by
  induction parts generalizing l with
  | nil => rfl
  | cons part parts ih => simp [places, ih]

theorem foldl_enter_mem_places (l : Location) (parts : List Text) :
    parts.foldl enter l ∈ places l parts := by
  induction parts generalizing l with
  | nil => exact List.mem_singleton.mpr rfl
  | cons part parts ih => exact List.mem_cons_of_mem l (ih (enter l part))

theorem destination_mem_way (p : Path) : destination p ∈ way p := foldl_enter_mem_places _ _

theorem way_parent_subset (p : Path) : way p.parent ⊆ way p := by
  obtain ⟨anchor, parts⟩ := p
  obtain rfl | ⟨parts, last, rfl⟩ := List.eq_nil_or_concat' parts
  · exact List.Subset.refl _
  · simp only [way, Path.parent, List.dropLast_concat, places_append_singleton]
    exact List.subset_append_left _ _

theorem get?_of_walk_cons {l target : Location} {part : Text} {parts : List Text}
    (walked : fs.walk l (part :: parts) = .ok target) :
    fs.get? l = some .directory ∧ fs.walk (enter l part) parts = .ok target := by
  rw [walk] at walked
  split at walked
  · cases walked
  · cases walked
  · exact ⟨‹_›, walked⟩

theorem eq_foldl_of_walk {l target : Location} {parts : List Text}
    (walked : fs.walk l parts = .ok target) : target = parts.foldl enter l := by
  induction parts generalizing l with
  | nil => exact (Except.ok.inj walked).symm
  | cons part parts ih => exact ih (get?_of_walk_cons walked).2

/-- The places on the way are directories, so a file put at the end leaves the way open. -/
theorem walk_put {l target : Location} {parts : List Text} (walked : fs.walk l parts = .ok target)
    (vacant : fs.get? target ≠ some .directory) (e : Entry) :
    (fs.put target e).walk l parts = .ok target := by
  induction parts generalizing l with
  | nil => exact walked
  | cons part parts ih =>
    obtain ⟨directory, later⟩ := get?_of_walk_cons walked
    have distinct : l ≠ target := fun same => vacant (same ▸ directory)
    rw [walk, get?_put_of_ne distinct, directory]
    exact ih later

theorem walk_append_singleton_iff {l : Location} {parts : List Text} {last : Text} :
    fs.walk l (parts ++ [last]) = .ok ((parts ++ [last]).foldl enter l) ↔
      ∀ q ∈ places l parts, fs.get? q = some .directory := by
  induction parts generalizing l with
  | nil =>
    rw [List.nil_append, walk]
    constructor
    · intro walked q member
      split at walked
      · cases walked
      · cases walked
      · rwa [List.mem_singleton.mp member]
    · intro directories
      rw [directories l (List.mem_singleton.mpr rfl)]
      rfl
  | cons part parts ih =>
    rw [places, List.forall_mem_cons, ← ih, List.cons_append]
    constructor
    · exact get?_of_walk_cons
    · rintro ⟨directory, later⟩
      rw [walk, directory]
      exact later

theorem walk_directories_iff {l : Location} {parts : List Text} :
    fs.walk l parts = .ok (parts.foldl enter l) ∧
        fs.get? (parts.foldl enter l) = some .directory ↔
      ∀ q ∈ places l parts, fs.get? q = some .directory := by
  obtain rfl | ⟨parts, last, rfl⟩ := List.eq_nil_or_concat' parts
  · simp [walk, places]
  · rw [walk_append_singleton_iff, places_append_singleton]
    simp only [List.forall_mem_append, List.forall_mem_singleton]

theorem walk_error_of_clear {l : Location} {parts : List Text} {r : Refusal}
    (clear : ∀ q ∈ places l parts, ∀ bytes, fs.get? q ≠ some (.file bytes))
    (stopped : fs.walk l parts = .error r) : r = .missing := by
  induction parts generalizing l with
  | nil => cases stopped
  | cons part parts ih =>
    rw [places, List.forall_mem_cons] at clear
    rw [walk] at stopped
    split at stopped
    · exact (Except.error.inj stopped).symm
    · exact absurd ‹_› (clear.1 _)
    · exact ih clear.2 stopped

end Walk

section Find

variable {fs fs' : FileSystem} {p : Path} {bytes : Bytes}

theorem locate_eq_destination {l : Location} (located : fs.locate p = .ok l) :
    l = destination p := eq_foldl_of_walk located

theorem find_eq_ok_iff {e : Entry} :
    fs.find p = .ok e ↔ fs.locate p = .ok (destination p) ∧ fs.get? (destination p) = some e := by
  unfold find
  cases located : fs.locate p with
  | error r => simp
  | ok l =>
    obtain rfl := locate_eq_destination located
    cases found : fs.get? (destination p) <;> simp [found]

theorem find_directory_iff :
    fs.find p = .ok .directory ↔ ∀ q ∈ way p, fs.get? q = some .directory := by
  rw [find_eq_ok_iff]
  exact walk_directories_iff

theorem read_eq_ok_iff : fs.read p = .ok bytes ↔ fs.find p = .ok (.file bytes) := by
  unfold read
  split <;> simp [*]

theorem contains_iff : fs.contains p = true ↔ ∃ e, fs.find p = .ok e := Except.isOk_iff

theorem contains_of_read (readable : fs.read p = .ok bytes) : fs.contains p = true :=
  contains_iff.mpr ⟨_, read_eq_ok_iff.mp readable⟩

theorem write_eq_ok_iff : fs.write p bytes = .ok fs' ↔
    fs.locate p = .ok (destination p) ∧ fs.get? (destination p) ≠ some .directory ∧
      fs' = fs.put (destination p) (.file bytes) := by
  unfold write
  cases located : fs.locate p with
  | error r => simp
  | ok l =>
    obtain rfl := locate_eq_destination located
    cases found : fs.get? (destination p) with
    | none => simp [found, eq_comm]
    | some e => cases e <;> simp [found, eq_comm]

theorem read_of_write (written : fs.write p bytes = .ok fs') : fs'.read p = .ok bytes := by
  obtain ⟨located, vacant, rfl⟩ := write_eq_ok_iff.mp written
  rw [read_eq_ok_iff, find_eq_ok_iff]
  exact ⟨walk_put located vacant _, get?_put_self (isBase_eq_false_of_get? vacant) _⟩

end Find

section Widened

/-- Directories were made at some of the given places where nothing was, and nothing else was
changed. -/
def Widened (places : List Location) (fs fs' : FileSystem) : Prop :=
  ∀ q, fs'.get? q = fs.get? q ∨
    (q ∈ places ∧ fs.get? q = none ∧ fs'.get? q = some .directory)

/-- No file stands at any of the given places. -/
def Clear (places : List Location) (fs : FileSystem) : Prop :=
  ∀ q ∈ places, ∀ bytes, fs.get? q ≠ some (.file bytes)

variable {fs fs' fs'' : FileSystem} {inner outer : List Location}

theorem Widened.refl (places : List Location) (fs : FileSystem) : Widened places fs fs :=
  fun _ => .inl rfl

theorem Widened.mono (wider : Widened inner fs fs') (within : inner ⊆ outer) :
    Widened outer fs fs' := by
  intro q
  obtain same | ⟨member, nothing, made⟩ := wider q
  · exact .inl same
  · exact .inr ⟨within member, nothing, made⟩

theorem Widened.trans (first : Widened inner fs fs') (second : Widened inner fs' fs'') :
    Widened inner fs fs'' := by
  intro q
  obtain same | ⟨member, nothing, made⟩ := second q
  · rw [same]
    exact first q
  · obtain before | ⟨-, -, already⟩ := first q
    · exact .inr ⟨member, before ▸ nothing, made⟩
    · rw [already] at nothing
      cases nothing

theorem Widened.file_iff (wider : Widened inner fs fs') (q : Location) (bytes : Bytes) :
    fs'.get? q = some (.file bytes) ↔ fs.get? q = some (.file bytes) := by
  obtain same | ⟨-, nothing, made⟩ := wider q
  · rw [same]
  · simp [nothing, made]

theorem Widened.clear_iff (wider : Widened inner fs fs') : Clear outer fs' ↔ Clear outer fs := by
  simp only [Clear, ne_eq, wider.file_iff]

end Widened

section Make

variable {fs fs' : FileSystem} {p : Path}

theorem isDirectory_iff : fs.isDirectory p = true ↔ fs.find p = .ok .directory := by
  unfold isDirectory
  split <;> simp_all

theorem makeNew_eq_ok_iff : fs.makeNew p = .ok fs' ↔
    fs.locate p = .ok (destination p) ∧ fs.get? (destination p) = none ∧
      fs' = fs.put (destination p) .directory := by
  unfold makeNew
  cases located : fs.locate p with
  | error r => simp
  | ok l =>
    obtain rfl := locate_eq_destination located
    cases found : fs.get? (destination p) <;> simp [found, eq_comm]

/-- Making a directory is only refused where one is, or where the way to it is missing. -/
theorem makeNew_error_of_clear (clear : Clear (way p) fs) {r : Refusal}
    (refused : fs.makeNew p = .error r) :
    (r = .missing ∧ fs.locate p = .error .missing) ∨ fs.find p = .ok .directory := by
  unfold makeNew at refused
  cases located : fs.locate p with
  | error reason =>
    have missing : reason = .missing := walk_error_of_clear clear located
    simp only [located, Except.error.injEq] at refused
    exact .inl ⟨refused ▸ missing, by rw [missing]⟩
  | ok l =>
    obtain rfl := locate_eq_destination located
    cases found : fs.get? (destination p) with
    | none => simp [located, found] at refused
    | some e => cases e with
      | file bytes => exact absurd found (clear _ (destination_mem_way p) bytes)
      | directory => exact .inr (find_eq_ok_iff.mpr ⟨located, found⟩)

structure Made (fs : FileSystem) (p : Path) (fs' : FileSystem) : Prop where
  directory : fs'.find p = .ok .directory
  widened : Widened (way p) fs fs'

/-- Only the last place of a path can become a directory by a step that makes one. -/
theorem widened_of_makeNew (done : fs.makeNew p = .ok fs') : Widened [destination p] fs fs' := by
  obtain ⟨-, nothing, rfl⟩ := makeNew_eq_ok_iff.mp done
  intro q
  by_cases same : q = destination p
  · subst same
    have vacant : fs.get? (destination p) ≠ some .directory := by simp [nothing]
    have free : isBase (destination p) = false := isBase_eq_false_of_get? vacant
    exact .inr ⟨List.mem_singleton_self _, nothing, get?_put_self free _⟩
  · exact .inl (get?_put_of_ne same .directory)

theorem widened_of_makeOne (done : fs.makeOne p = .ok fs') : Widened [destination p] fs fs' := by
  unfold makeOne at done
  split at done
  · next made => exact Except.ok.inj done ▸ widened_of_makeNew made
  · split at done
    · exact Except.ok.inj done ▸ Widened.refl _ fs
    · cases done

theorem destination_subset_way (p : Path) : [destination p] ⊆ way p :=
  List.cons_subset.mpr ⟨destination_mem_way p, List.nil_subset _⟩

theorem made_of_makeNew (done : fs.makeNew p = .ok fs') : Made fs p fs' := by
  refine ⟨?_, (widened_of_makeNew done).mono (destination_subset_way p)⟩
  obtain ⟨located, nothing, rfl⟩ := makeNew_eq_ok_iff.mp done
  have vacant : fs.get? (destination p) ≠ some .directory := by simp [nothing]
  exact find_eq_ok_iff.mpr ⟨walk_put located vacant _,
    get?_put_self (isBase_eq_false_of_get? vacant) .directory⟩

theorem made_of_makeOne (done : fs.makeOne p = .ok fs') : Made fs p fs' := by
  refine ⟨?_, (widened_of_makeOne done).mono (destination_subset_way p)⟩
  unfold makeOne at done
  split at done
  · next made => exact Except.ok.inj done ▸ (made_of_makeNew made).directory
  · split at done
    · next there => exact Except.ok.inj done ▸ isDirectory_iff.mp there
    · cases done

theorem way_subset_cons (anchor : Anchor) (part : Text) (parts : List Text) :
    way ⟨anchor, parts.reverse⟩ ⊆ way ⟨anchor, (part :: parts).reverse⟩ := by
  simp only [way, List.reverse_cons, places_append_singleton]
  exact List.subset_append_left _ _

/-- Directories that were made stay also where the last one is refused. -/
theorem widened_makeUpTo (anchor : Anchor) (room : Nat) (parts : List Text) (fs : FileSystem) :
    Widened (way ⟨anchor, parts.reverse⟩) fs (makeUpTo anchor room parts fs).1 := by
  induction parts generalizing room with
  | nil =>
    unfold makeUpTo
    split
    · next made => exact (made_of_makeOne made).widened
    · exact Widened.refl _ fs
  | cons part parts ih =>
    -- what was made above lies on the same way
    have above (room : Nat) := (ih room).mono (way_subset_cons anchor part parts)
    unfold makeUpTo
    dsimp only
    split
    · next made => exact (made_of_makeNew made).widened
    · split
      · exact Widened.refl _ fs
      · next room =>
        split
        · next refused => exact (congrArg Prod.fst refused) ▸ above room
        · next reached =>
          have before : Widened _ fs _ := (congrArg Prod.fst reached) ▸ above room
          split
          · next made => exact before.trans (made_of_makeOne made).widened
          · exact before
    · split <;> exact Widened.refl _ fs

theorem made_of_makeUpTo {anchor : Anchor} {room : Nat} {parts : List Text}
    (done : makeUpTo anchor room parts fs = (fs', .ok ())) :
    Made fs ⟨anchor, parts.reverse⟩ fs' where
  widened := by
    have widened := widened_makeUpTo anchor room parts fs
    rwa [done] at widened
  directory := by
    cases parts with
    | nil =>
      unfold makeUpTo at done
      split at done
      · next made => exact (Prod.mk.inj done).1 ▸ (made_of_makeOne made).directory
      · simp at done
    | cons part parts =>
      unfold makeUpTo at done
      dsimp only at done
      split at done
      · next made => exact (Prod.mk.inj done).1 ▸ (made_of_makeNew made).directory
      · split at done
        · simp at done
        · split at done
          · simp at done
          · split at done
            · next made => exact (Prod.mk.inj done).1 ▸ (made_of_makeOne made).directory
            · simp at done
      · split at done
        · next there => exact (Prod.mk.inj done).1 ▸ isDirectory_iff.mp there
        · simp at done

theorem makeOne_of_clear {anchor : Anchor} {parts : List Text} {last : Text}
    (clear : Clear (way ⟨anchor, parts ++ [last]⟩) fs)
    (above : fs.find ⟨anchor, parts⟩ = .ok .directory) :
    ∃ fs', fs.makeOne ⟨anchor, parts ++ [last]⟩ = .ok fs' := by
  have located : fs.locate ⟨anchor, parts ++ [last]⟩ =
      .ok (destination ⟨anchor, parts ++ [last]⟩) :=
    walk_append_singleton_iff.mpr (find_directory_iff.mp above)
  unfold makeOne
  cases made : fs.makeNew ⟨anchor, parts ++ [last]⟩ with
  | ok fs' => exact ⟨fs', rfl⟩
  | error r =>
    obtain ⟨-, missing⟩ | there := makeNew_error_of_clear clear made
    · rw [located] at missing
      cases missing
    · exact ⟨fs, by simp [isDirectory_iff.mpr there]⟩

theorem makeUpTo_of_directory {anchor : Anchor} {parts : List Text}
    (directory : fs.find ⟨anchor, parts.reverse⟩ = .ok .directory) (room : Nat) :
    makeUpTo anchor room parts fs = (fs, .ok ()) := by
  have there := isDirectory_iff.mpr directory
  have taken : fs.makeNew ⟨anchor, parts.reverse⟩ = .error .exists := by
    obtain ⟨located, found⟩ := find_eq_ok_iff.mp directory
    simp only [makeNew, located, found]
  cases parts with
  | nil =>
    rw [List.reverse_nil] at there taken
    simp only [makeUpTo, makeOne, taken, there, if_true]
  | cons part parts => cases room <;> simp only [makeUpTo, taken, there, if_true]

/-- How many directories on a way lie in one that is missing. To make the last one takes as many
calls inside the first. The parts come last first. -/
def pending (fs : FileSystem) (anchor : Anchor) : List Text → Nat
  | [] => 0
  | part :: parts =>
    if fs.locate ⟨anchor, (part :: parts).reverse⟩ = .error .missing then
      pending fs anchor parts + 1
    else 0

theorem pending_le_length (fs : FileSystem) (anchor : Anchor) (parts : List Text) :
    fs.pending anchor parts ≤ parts.length := by
  induction parts with
  | nil => exact Nat.le_refl 0
  | cons part parts ih =>
    rw [pending]
    split
    · exact Nat.succ_le_succ ih
    · exact Nat.zero_le _

/-- Below a first directory that is missing, all are. -/
theorem pending_of_missing {anchor : Anchor} {first : Text}
    (missing : fs.get? (enter (base ⟨anchor, []⟩) first) = none) (parts : List Text) :
    fs.pending anchor (parts ++ [first]) = parts.length := by
  have start (rest : List Text) : fs.locate ⟨anchor, first :: rest⟩ =
      fs.walk (enter (base ⟨anchor, []⟩) first) rest := by
    change fs.walk (base ⟨anchor, []⟩) (first :: rest) = _
    rw [walk, get?_base]
  induction parts with
  | nil =>
    have found : fs.locate ⟨anchor, [first]⟩ ≠ .error .missing := by
      rw [start, walk]
      exact nofun
    rw [List.nil_append, pending, List.reverse_singleton, if_neg found, List.length_nil]
  | cons part parts ih =>
    have lost : fs.locate ⟨anchor, (part :: (parts ++ [first])).reverse⟩ = .error .missing := by
      obtain ⟨next, rest, shape⟩ : ∃ next rest, parts.reverse ++ [part] = next :: rest :=
        List.exists_cons_of_ne_nil (by simp)
      rw [List.reverse_cons, List.reverse_append, List.reverse_singleton, List.singleton_append,
        List.cons_append, start, shape, walk, missing]
    rw [List.cons_append, pending, if_pos lost, ih, List.length_cons]

theorem makeNew_eq_missing_iff :
    fs.makeNew p = .error .missing ↔ fs.locate p = .error .missing := by
  unfold makeNew
  cases located : fs.locate p with
  | error r => simp
  | ok l => cases found : fs.get? l <;> simp [found]

/-- Without room nothing is made: the calls are made from the last directory upwards, and the first
one to make a directory is the innermost. -/
theorem makeUpTo_eq_exhausted_iff {anchor : Anchor} {room : Nat} {parts : List Text} :
    makeUpTo anchor room parts fs = (fs', .error .exhausted) ↔
      room < fs.pending anchor parts ∧ fs' = fs := by
  induction parts generalizing room fs' with
  | nil =>
    refine iff_of_false (fun refused => ?_) fun short => absurd short.1 (Nat.not_lt_zero room)
    unfold makeUpTo at refused
    split at refused <;> simp at refused
  | cons part parts ih =>
    rw [pending]
    unfold makeUpTo
    dsimp only
    split
    · next made =>
      rw [if_neg (by rw [(makeNew_eq_ok_iff.mp made).1]; exact nofun)]
      simp
    · next missing =>
      rw [if_pos (makeNew_eq_missing_iff.mp missing)]
      cases room with
      | zero => simp [eq_comm]
      | succ room =>
        rw [Nat.add_lt_add_iff_right, ← ih]
        dsimp only
        split
        · next above => simp [above]
        · next above =>
          rw [above]
          split <;> simp
    · next r other made =>
      have known : fs.locate ⟨anchor, (part :: parts).reverse⟩ ≠ .error .missing := by
        rw [Ne, ← makeNew_eq_missing_iff, made]
        simpa using other
      rw [if_neg known]
      split <;> simp

theorem makeUpTo_of_clear {anchor : Anchor} {room : Nat} {parts : List Text}
    (clear : Clear (way ⟨anchor, parts.reverse⟩) fs) (enough : fs.pending anchor parts ≤ room) :
    ∃ fs', makeUpTo anchor room parts fs = (fs', .ok ()) := by
  induction parts generalizing room with
  | nil =>
    refine ⟨fs, makeUpTo_of_directory (find_directory_iff.mpr fun q member => ?_) room⟩
    obtain rfl := List.mem_singleton.mp member
    exact get?_base fs ⟨anchor, []⟩
  | cons part parts ih =>
    by_cases there : fs.find ⟨anchor, (part :: parts).reverse⟩ = .ok .directory
    · exact ⟨fs, makeUpTo_of_directory there room⟩
    unfold makeUpTo
    dsimp only
    cases made : fs.makeNew ⟨anchor, (part :: parts).reverse⟩ with
    | ok fs' => exact ⟨fs', rfl⟩
    | error r =>
      obtain ⟨rfl, missing⟩ := (makeNew_error_of_clear clear made).resolve_right there
      rw [pending, if_pos missing] at enough
      obtain ⟨room, rfl⟩ : ∃ fewer, room = fewer + 1 :=
        Nat.exists_eq_add_one.mpr (Nat.lt_of_lt_of_le (Nat.succ_pos _) enough)
      obtain ⟨fs', above⟩ := ih (fun q member => clear q (way_subset_cons anchor part parts member))
        (Nat.le_of_succ_le_succ enough)
      obtain ⟨directory, widened⟩ := made_of_makeUpTo above
      rw [List.reverse_cons] at clear ⊢
      obtain ⟨fs'', below⟩ := makeOne_of_clear (widened.clear_iff.mpr clear) directory
      exact ⟨fs'', by simp only [above, below]⟩

end Make

section Write

variable {fs fs' : FileSystem} {p : Path} {bytes : Bytes} {room : Nat}

/-- Where a file can be put once the directories on the way are made. -/
structure Writable (fs : FileSystem) (p : Path) : Prop where
  clear : Clear (way p.parent) fs
  beyond : destination p ∉ way p.parent
  vacant : fs.get? (destination p) ≠ some .directory

/-- The stack has room for the calls that make the directories above a path. -/
def HasRoom (fs : FileSystem) (room : Nat) (p : Path) : Prop :=
  fs.pending p.anchor p.parent.parts.reverse ≤ room

instance (fs : FileSystem) (room : Nat) (p : Path) : Decidable (fs.HasRoom room p) :=
  inferInstanceAs (Decidable (_ ≤ _))

theorem hasRoom_of_length (short : p.parts.length ≤ room + 1) : fs.HasRoom room p := by
  have above := fs.pending_le_length p.anchor p.parent.parts.reverse
  rw [List.length_reverse, Path.parent, List.length_dropLast] at above
  exact Nat.le_trans above (Nat.sub_le_of_le_add short)

theorem writeWithParents_eq_ok_iff : fs.writeWithParents room p bytes = (fs', .ok ()) ↔
    ∃ made, fs.makeDirectories room p.parent = (made, .ok ()) ∧ made.write p bytes = .ok fs' := by
  unfold writeWithParents
  obtain ⟨made, _ | ⟨⟨⟩⟩⟩ := fs.makeDirectories room p.parent
  · simp
  · cases wrote : made.write p bytes <;> simp [wrote]

theorem writeWithParents_eq_exhausted_iff :
    fs.writeWithParents room p bytes = (fs', .error .exhausted) ↔
      ¬ fs.HasRoom room p ∧ fs' = fs := by
  rw [HasRoom, Nat.not_le, ← makeUpTo_eq_exhausted_iff]
  change _ ↔ fs.makeDirectories room p.parent = (fs', .error .exhausted)
  unfold writeWithParents
  obtain ⟨made, o | ⟨⟨⟩⟩⟩ := fs.makeDirectories room p.parent
  · simp
  · cases wrote : made.write p bytes <;> simp [wrote]

theorem made_of_makeDirectories (done : fs.makeDirectories room p = (fs', .ok ())) :
    Made fs p fs' := by
  have made := made_of_makeUpTo done
  rwa [List.reverse_reverse] at made

theorem read_of_writeWithParents (written : fs.writeWithParents room p bytes = (fs', .ok ())) :
    fs'.read p = .ok bytes := by
  obtain ⟨made, -, wrote⟩ := writeWithParents_eq_ok_iff.mp written
  exact read_of_write wrote

theorem writeWithParents_of_writable (writable : fs.Writable p) (enough : fs.HasRoom room p)
    (bytes : Bytes) : ∃ fs', fs.writeWithParents room p bytes = (fs', .ok ()) := by
  obtain ⟨clear, beyond, vacant⟩ := writable
  obtain ⟨made, done⟩ : ∃ made, fs.makeDirectories room p.parent = (made, .ok ()) :=
    makeUpTo_of_clear (by rwa [List.reverse_reverse]) enough
  obtain ⟨directory, widened⟩ := made_of_makeDirectories done
  -- directories were made on the way only, and the end of the path is none of its places
  have untouched : made.get? (destination p) = fs.get? (destination p) :=
    (widened _).resolve_right fun inside => beyond inside.1
  have located : made.locate p = .ok (destination p) := by
    obtain ⟨anchor, parts⟩ := p
    obtain rfl | ⟨parts, last, rfl⟩ := List.eq_nil_or_concat' parts
    · rfl
    · simp only [Path.parent, List.dropLast_concat] at directory
      exact walk_append_singleton_iff.mpr (find_directory_iff.mp directory)
  refine ⟨made.put (destination p) (.file bytes), writeWithParents_eq_ok_iff.mpr ⟨made, done, ?_⟩⟩
  exact write_eq_ok_iff.mpr ⟨located, untouched ▸ vacant, rfl⟩

theorem hasRoom_of_writeWithParents (written : fs.writeWithParents room p bytes = (fs', .ok ())) :
    fs.HasRoom room p := by
  by_contra short
  cases written.symm.trans (writeWithParents_eq_exhausted_iff.mpr ⟨short, rfl⟩)

theorem writable_of_writeWithParents (written : fs.writeWithParents room p bytes = (fs', .ok ())) :
    fs.Writable p := by
  obtain ⟨made, done, wrote⟩ := writeWithParents_eq_ok_iff.mp written
  obtain ⟨directory, widened⟩ := made_of_makeDirectories done
  obtain ⟨-, vacant, -⟩ := write_eq_ok_iff.mp wrote
  have directories := find_directory_iff.mp directory
  refine ⟨widened.clear_iff.mp fun q member bytes => ?_, fun member => ?_, ?_⟩
  · simp [directories q member]
  · exact vacant (directories _ member)
  · obtain same | ⟨-, nothing, -⟩ := widened (destination p)
    · rwa [← same]
    · simp [nothing]

theorem directories_of_read (readable : fs.read p = .ok bytes) :
    ∀ q ∈ way p.parent, fs.get? q = some .directory := by
  obtain ⟨located, found⟩ := find_eq_ok_iff.mp (read_eq_ok_iff.mp readable)
  obtain ⟨anchor, parts⟩ := p
  obtain rfl | ⟨parts, last, rfl⟩ := List.eq_nil_or_concat' parts
  · have base := get?_base fs ⟨anchor, []⟩
    rw [destination, List.foldl_nil, base] at found
    cases found
  · rw [way, Path.parent, List.dropLast_concat]
    exact walk_append_singleton_iff.mp located

theorem writable_of_read (readable : fs.read p = .ok bytes) : fs.Writable p := by
  have found := (find_eq_ok_iff.mp (read_eq_ok_iff.mp readable)).2
  have directories := directories_of_read readable
  refine ⟨fun q member bytes => ?_, fun member => ?_, ?_⟩
  · simp [directories q member]
  · simp [directories _ member] at found
  · simp [found]

/-- Where a file can be read no directory is missing. -/
theorem hasRoom_of_read (readable : fs.read p = .ok bytes) (room : Nat) : fs.HasRoom room p := by
  obtain ⟨located, -⟩ := find_eq_ok_iff.mp (find_directory_iff.mpr (directories_of_read readable))
  have known : fs.locate ⟨p.anchor, p.parent.parts.reverse.reverse⟩ ≠ .error .missing := by
    rw [List.reverse_reverse]
    exact fun missing => nomatch located.symm.trans missing
  rw [HasRoom]
  cases above : p.parent.parts.reverse with
  | nil => exact Nat.zero_le room
  | cons part parts =>
    rw [pending, if_neg (above ▸ known)]
    exact Nat.zero_le room

end Write

end Folio.Storage.FileSystem
