import Folio.Proofs.Command.Arguments
import Folio.Proofs.Command.Session
import Folio.Proofs.Document.Exporting
import Folio.Proofs.Document.PlainFormats
import Folio.Proofs.Library.Damage

/-! Rendering files into a file from the command line: it is an export of the same document, but a
run of the program opens its log first. -/
namespace Folio

namespace Logging

open Storage (FileSystem Location Path readText)
open Storage.FileSystem
open Text.Utf8 (Bytes)

variable {logs : Path} {fs : FileSystem} {l : Location} {p : Path}

theorem undisturbed_openFile_of_ne (elsewhere : destination (logFile logs) ≠ l) :
    Undisturbed l fs (openFile logs fs).1 :=
  undisturbed_openFile fun reached => absurd reached elsewhere

/-- The only directory that opening the log makes is that of the log. -/
theorem directory_of_openFile (there : (openFile logs fs).1.get? l = some .directory) :
    fs.get? l = some .directory ∨ l = destination logs ∧ fs.get? l = none := by
  obtain ⟨made, widened, opened⟩ := openFile_cases logs fs
  have before : made.get? l = some .directory := by
    rcases opened with same | ⟨nothing, same⟩
    · rwa [same] at there
    · rw [same] at there
      by_cases log : l = destination (logFile logs)
      · have vacant : made.get? l ≠ some .directory := by simp [log, nothing]
        have free : isBase l = false := isBase_eq_false_of_get? vacant
        rw [← log, get?_put_self free] at there
        cases there
      · rwa [get?_put_of_ne log] at there
  obtain same | ⟨member, nothing, -⟩ := widened l
  · exact .inl (same ▸ before)
  · exact .inr ⟨List.mem_singleton.mp member, nothing⟩

/-- A path from which something is read although the log is opened before: it does not lead to the
log, and nothing is found there only because of the log. -/
structure Spares (logs : Path) (fs : FileSystem) (p : Path) : Prop where
  elsewhere : destination (logFile logs) ≠ destination p
  reached : (openFile logs fs).1.contains p = true → fs.contains p = true

/-- A path to which a file is written although the log is opened before: it does not lead over the
log, nor to the directory of the log where that is missing, and the stack has not only room for the
directories above it because the log has made one of them. -/
structure Admits (logs : Path) (room : Nat) (fs : FileSystem) (p : Path) : Prop where
  clear : destination (logFile logs) ∉ way p
  vacant : destination p = destination logs → fs.get? (destination logs) ≠ none
  enough : (openFile logs fs).1.HasRoom room p → fs.HasRoom room p

section Spares

theorem Spares.read_iff (spares : Spares logs fs p) (bytes : Bytes) :
    (openFile logs fs).1.read p = .ok bytes ↔ fs.read p = .ok bytes := by
  have undisturbed : Undisturbed (destination p) fs (openFile logs fs).1 :=
    undisturbed_openFile_of_ne spares.elsewhere
  constructor
  · intro readable
    obtain ⟨e, found⟩ := contains_iff.mp (spares.reached (contains_of_read readable))
    have located := (find_eq_ok_iff.mp found).1
    have file := (find_eq_ok_iff.mp (read_eq_ok_iff.mp readable)).2
    exact read_eq_ok_iff.mpr (find_eq_ok_iff.mpr ⟨located, (undisturbed.same bytes).mp file⟩)
  · intro readable
    exact (undisturbed.read_iff (not_hidden_of_read readable) bytes).mpr readable

theorem Spares.contains (spares : Spares logs fs p) :
    (openFile logs fs).1.contains p = fs.contains p := by
  refine Bool.eq_iff_iff.mpr ⟨spares.reached, fun there => ?_⟩
  exact (undisturbed_openFile_of_ne spares.elsewhere).contains there

theorem Spares.readText_iff (spares : Spares logs fs p) (s : Text) :
    readText (openFile logs fs).1 p = .ok s ↔ readText fs p = .ok s := by
  simp only [Document.readText_eq_ok_iff, spares.read_iff]

theorem readOptional_iff {given : Option Path} (spares : ∀ p ∈ given, Spares logs fs p) (s : Text) :
    Document.readOptional (openFile logs fs).1 given = .ok s ↔
      Document.readOptional fs given = .ok s := by
  cases given with
  | none => exact Iff.rfl
  | some p => exact (spares p rfl).readText_iff s

theorem Spares.load {room : Room} (spares : Spares logs fs p) {fresh : Library}
    (loads : (Library.load room fs p fresh).2 = .ok ()) :
    (Library.load room (openFile logs fs).1 p fresh).2 = .ok () := by
  obtain ⟨object, read, lists⟩ := Library.load_eq_ok_iff.mp loads
  refine Library.load_eq_ok_iff.mpr ⟨object, ?_, lists⟩
  unfold Library.readFile at read ⊢
  rw [spares.contains]
  split at read
  · next there =>
    rw [if_pos there]
    cases found : readText fs p with
    | error f => cases f <;> simp [found] at read
    | ok document =>
      rw [(spares.readText_iff document).mpr found]
      simpa only [found] using read
  · next absent => rwa [if_neg absent]

theorem spares_of_not_mem (log : destination (logFile logs) ≠ destination p)
    (apart : destination logs ∉ way p) : Spares logs fs p := by
  -- what is a directory on the way now was one before, as none was made there
  have directories {q : Location} (inside : q ∈ way p)
      (there : (openFile logs fs).1.get? q = some .directory) : fs.get? q = some .directory :=
    (directory_of_openFile there).resolve_right fun new => apart (new.1 ▸ inside)
  refine ⟨log, fun there => ?_⟩
  obtain ⟨e, found⟩ := contains_iff.mp there
  obtain ⟨located, entry⟩ := find_eq_ok_iff.mp found
  have before : fs.get? (destination p) = some e := by
    cases e with
    | directory => exact directories (destination_mem_way p) entry
    | file bytes => exact ((undisturbed_openFile_of_ne log).same bytes).mp entry
  have leads : fs.locate p = .ok (destination p) := by
    obtain ⟨anchor, parts⟩ := p
    obtain rfl | ⟨parts, last, rfl⟩ := List.eq_nil_or_concat' parts
    · rfl
    · refine walk_append_singleton_iff.mpr fun q member => directories ?_ ?_
      · rw [way, places_append_singleton]
        exact List.mem_append_left _ member
      · exact walk_append_singleton_iff.mp located q member
  exact contains_iff.mpr ⟨e, find_eq_ok_iff.mpr ⟨leads, before⟩⟩

end Spares

section Admits

variable {room : Nat}

theorem Admits.writable_iff (admits : Admits logs room fs p) :
    (openFile logs fs).1.Writable p ↔ fs.Writable p := by
  have undisturbed (l : Location) (inside : l ∈ way p) : Undisturbed l fs (openFile logs fs).1 :=
    undisturbed_openFile_of_ne fun reached => admits.clear (reached ▸ inside)
  have clear : Clear (way p.parent) (openFile logs fs).1 ↔ Clear (way p.parent) fs := by
    refine forall₂_congr fun l member => forall_congr' fun bytes => not_congr ?_
    exact (undisturbed l (way_parent_subset p member)).same bytes
  have vacant : (openFile logs fs).1.get? (destination p) = some .directory ↔
      fs.get? (destination p) = some .directory := by
    refine ⟨fun there => ?_, (undisturbed _ (destination_mem_way p)).directory _⟩
    obtain before | ⟨reached, nothing⟩ := directory_of_openFile there
    · exact before
    · exact absurd (reached ▸ nothing) (admits.vacant reached)
  constructor
  · rintro ⟨open_, beyond, free⟩
    exact ⟨clear.mp open_, beyond, fun there => free (vacant.mpr there)⟩
  · rintro ⟨open_, beyond, free⟩
    exact ⟨clear.mpr open_, beyond, fun there => free (vacant.mp there)⟩

theorem Admits.hasRoom_iff (admits : Admits logs room fs p) :
    (openFile logs fs).1.HasRoom room p ↔ fs.HasRoom room p := by
  refine ⟨admits.enough, fun enough => ?_⟩
  have outside : destination (logFile logs) ≠ destination p := fun reached =>
    admits.clear (reached ▸ destination_mem_way p)
  exact (undisturbed_openFile_of_ne outside).hasRoom enough

end Admits

end Logging

namespace Command

open Storage (FileSystem Location Path readText)
open Storage.FileSystem
open Document (Composition Request composeFiles exportFiles writeOutput)
open Logging (Spares Admits configure)

namespace FileRendering

def target (f : FileRendering) : Path := Path.ofText f.output

/-- The document that is rendered, as an export of it would be asked for. -/
def request (f : FileRendering) : Request :=
  ⟨Path.ofText f.template, f.data.map Path.ofText, f.style.map Path.ofText, f.format.name,
    f.markup⟩

def sources (f : FileRendering) (library : Path) : List Path :=
  library :: Path.ofText f.template :: (f.data.toList ++ f.style.toList).map Path.ofText

end FileRendering

variable {host : Host} {console : Console} {fs : FileSystem} {f : FileRendering} {path : Path}

section Render

theorem readSource_map (kind : Library.Kind) (library : Library) (given : Option Text) :
    readSource fs path library kind (given.map fileSource) =
      Document.readOptional fs (given.map Path.ofText) := by
  cases given <;> rfl

/-- The command reads the files in the order of an export, and its format is known. -/
theorem renderCommand_rendering (fs : FileSystem) (path : Path) (library : Library)
    (f : FileRendering) :
    (∀ failure, composeFiles host.room fs f.request = .error failure →
      renderCommand host console fs path library f.rendering = (fs, .error failure)) ∧
    ∀ c, composeFiles host.room fs f.request = .ok c →
      renderCommand host console fs path library f.rendering =
        ((writeOutput host.room fs c.exported f.target).1,
          (writeOutput host.room fs c.exported f.target).2.map fun done =>
            ([], if done then 0 else 1)) := by
  have template : readSource fs path library .template (some (fileSource f.template)) =
      readText fs (Path.ofText f.template) := rfl
  unfold renderCommand composeFiles
  simp only [FileRendering.rendering, FileRendering.request, template, readSource_map,
    Document.compose_name]
  cases readText fs (Path.ofText f.template) with
  | error failure =>
    refine ⟨fun _ same => ?_, fun _ same => ?_⟩ <;> cases same
    rfl
  | ok t =>
    cases Document.readOptional fs (f.data.map Path.ofText) with
    | error failure =>
      refine ⟨fun _ same => ?_, fun _ same => ?_⟩ <;> cases same
      rfl
    | ok d =>
      cases Document.readOptional fs (f.style.map Path.ofText) with
      | error failure =>
        refine ⟨fun _ same => ?_, fun _ same => ?_⟩ <;> cases same
        rfl
      | ok s =>
        refine ⟨fun _ same => ?_, fun _ same => ?_⟩ <;> cases same
        rfl

end Render

section Run

variable {settings : Settings}

/-- A run is an export of the same document over the files that it finds when the log is open. -/
theorem run_words {opened : FileSystem} (accepted : ∀ s ∈ f.paths, IsValue s)
    (opens : (configure host.logs fs settings.fileLogs).1 = opened)
    (loads : (Library.load host.room opened settings.libraryPath .empty).2 = .ok ()) :
    (run host console (.ok settings) fs f.words).files =
        (exportFiles host.room opened f.request (some f.target)).1 ∧
      ((run host console (.ok settings) fs f.words).ending = .ok 0 ↔
        (exportFiles host.room opened f.request (some f.target)).2 = .ok true) := by
  obtain ⟨library, loaded⟩ : ∃ library,
      Library.load host.room opened settings.libraryPath .empty = (library, .ok ()) :=
    ⟨_, Prod.ext rfl loads⟩
  have ran : run host console (.ok settings) fs f.words = conclude console
      (renderCommand host console opened settings.libraryPath library f.rendering) := by
    unfold run
    dsimp only
    rw [parse_words.mpr ⟨accepted, rfl⟩]
    dsimp only
    rw [opens, perform, loaded]
  have rendered := @renderCommand_rendering host console opened settings.libraryPath library f
  rw [ran]
  cases composed : composeFiles host.room opened f.request with
  | error failure =>
    rw [rendered.1 failure composed, Document.exportFiles_of_error composed, files_conclude]
    exact ⟨rfl, iff_of_false (ending_conclude_error _ _ _) nofun⟩
  | ok c =>
    have written : exportFiles host.room opened f.request (some f.target) =
        writeOutput host.room opened c.exported f.target := Document.exportFiles_of_ok composed
    rw [rendered.2 c composed, written, files_conclude]
    refine ⟨rfl, ?_⟩
    obtain ⟨fs', failure | wrote⟩ := writeOutput host.room opened c.exported f.target
    · exact iff_of_false (ending_conclude_error _ _ _) nofun
    · cases wrote <;> simp [conclude, Except.map]

/-- What a run of the program and an export of the same document have in common: both succeed or
none does; then they write the same to the same place and nothing anywhere else; and otherwise they
change no file. The place of the log, if a run has one, is left out of account. -/
structure Agree (fs : FileSystem) (log : Option Path) (target : Path) (r : Result)
    (done : FileSystem × Except Failure Bool) : Prop where
  status : r.ending = .ok 0 ↔ done.2 = .ok true
  written : done.2 = .ok true → ∃ bytes, r.files.read target = .ok bytes ∧
    done.1.read target = .ok bytes ∧ ∀ l, l ≠ destination target → Undisturbed l fs done.1 ∧
      ((∀ p ∈ log, destination p ≠ l) → Undisturbed l fs r.files)
  unwritten : done.2 ≠ .ok true → ∀ l, Undisturbed l fs done.1 ∧
    ((∀ p ∈ log, destination p ≠ l) → Undisturbed l fs r.files)

/-- The file that a run keeps its log in, if it keeps one. -/
def logOf (host : Host) (settings : Settings) : Option Path :=
  if settings.fileLogs then some (Logging.logFile host.logs) else none

theorem composeFiles_openFile_iff {c : Composition}
    (spares : ∀ p ∈ f.sources path, Spares host.logs fs p) :
    composeFiles host.room (Logging.openFile host.logs fs).1 f.request = .ok c ↔
      composeFiles host.room fs f.request = .ok c := by
  simp only [FileRendering.sources, List.forall_mem_cons, List.map_append,
    List.forall_mem_append] at spares
  obtain ⟨-, template, data, style⟩ := spares
  have optional {given : Option Text}
      (spared : ∀ p ∈ given.toList.map Path.ofText, Spares host.logs fs p) :
      ∀ p ∈ given.map Path.ofText, Spares host.logs fs p := by
    cases given with
    | none => exact nofun
    | some s =>
      rintro p ⟨⟩
      exact spared _ (by simp)
  have reads (t d s : Text) : Document.Reads (Logging.openFile host.logs fs).1 f.request t d s ↔
      Document.Reads fs f.request t d s := by
    constructor
    · rintro ⟨hasTemplate, hasData, hasStyle⟩
      exact ⟨(template.readText_iff t).mp hasTemplate,
        (Logging.readOptional_iff (optional data) d).mp hasData,
        (Logging.readOptional_iff (optional style) s).mp hasStyle⟩
    · rintro ⟨hasTemplate, hasData, hasStyle⟩
      exact ⟨(template.readText_iff t).mpr hasTemplate,
        (Logging.readOptional_iff (optional data) d).mpr hasData,
        (Logging.readOptional_iff (optional style) s).mpr hasStyle⟩
  simp only [Document.composeFiles_eq_ok_iff, reads]

/-- The files that a run finds are, for all that a rendering has to do with them, those before. -/
structure Alike (host : Host) (fs opened : FileSystem) (settings : Settings) (f : FileRendering) :
    Prop where
  loads : (Library.load host.room fs settings.libraryPath .empty).2 = .ok () →
    (Library.load host.room opened settings.libraryPath .empty).2 = .ok ()
  composed : ∀ c, composeFiles host.room opened f.request = .ok c ↔
    composeFiles host.room fs f.request = .ok c
  writable : opened.Writable f.target ↔ fs.Writable f.target
  enough : opened.HasRoom host.room.directories f.target ↔
    fs.HasRoom host.room.directories f.target
  undisturbed : ∀ l, (∀ p ∈ logOf host settings, destination p ≠ l) → Undisturbed l fs opened

theorem alike_configure (apart : settings.fileLogs = true →
      (∀ p ∈ f.sources settings.libraryPath, Spares host.logs fs p) ∧
        Admits host.logs host.room.directories fs f.target) :
    Alike host fs (configure host.logs fs settings.fileLogs).1 settings f := by
  cases wants : settings.fileLogs with
  | false => exact ⟨id, fun _ => Iff.rfl, Iff.rfl, Iff.rfl, fun l _ => Undisturbed.refl l fs⟩
  | true =>
    obtain ⟨spares, admits⟩ := apart wants
    rw [Logging.files_configure]
    refine ⟨(spares _ (List.mem_cons_self ..)).load, fun _ => composeFiles_openFile_iff spares,
      admits.writable_iff, admits.hasRoom_iff, fun l elsewhere => ?_⟩
    exact Logging.undisturbed_openFile_of_ne (elsewhere _ (by simp [logOf, wants]))

end Run

end Command

end Folio
