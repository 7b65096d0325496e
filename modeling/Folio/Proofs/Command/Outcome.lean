import Folio.Command.Run
import Folio.Proofs.Document.Exporting
import Folio.Proofs.Library.OrderedMap
import Folio.Proofs.Storage.Frame

/-! What a command can come to, and what it has done to the files by then. -/
namespace Folio

namespace Logging

open Storage (FileSystem Location Path)
open Storage.FileSystem

variable {logs : Path} {fs : FileSystem} {l : Location}

theorem files_configure (logs : Path) (fs : FileSystem) :
    (configure logs fs true).1 = (openFile logs fs).1 := by
  simp only [configure, if_true]
  split <;> simp [*]

/-- The directory of the log is made or there, and at most an empty log file is new in it. -/
theorem openFile_cases (logs : Path) (fs : FileSystem) :
    ∃ made, Widened [destination logs] fs made ∧
      ((openFile logs fs).1 = made ∨ made.get? (destination (logFile logs)) = none ∧
        (openFile logs fs).1 = made.put (destination (logFile logs)) (.file [])) := by
  unfold openFile
  split
  · exact ⟨fs, Widened.refl _ fs, .inl rfl⟩
  · next made done =>
    refine ⟨made, widened_of_makeOne done, ?_⟩
    split
    · exact .inl rfl
    · exact .inl rfl
    · next missing =>
      split
      · next written =>
        obtain ⟨located, -, rfl⟩ := write_eq_ok_iff.mp written
        refine .inr ⟨?_, rfl⟩
        cases found : made.get? (destination (logFile logs)) with
        | none => rfl
        | some e => rw [find_eq_ok_iff.mpr ⟨located, found⟩] at missing; cases missing
      · exact .inl rfl

theorem undisturbed_openFile
    (apart : destination (logFile logs) = l → ∃ bytes, fs.get? l = some (.file bytes)) :
    Undisturbed l fs (openFile logs fs).1 := by
  obtain ⟨made, widened, same | ⟨nothing, same⟩⟩ := openFile_cases logs fs
  · exact same ▸ widened.undisturbed l
  · have elsewhere : destination (logFile logs) ≠ l := by
      intro reached
      obtain ⟨bytes, there⟩ := apart reached
      rw [reached, (widened.file_iff l bytes).mpr there] at nothing
      cases nothing
    rw [same]
    exact (widened.undisturbed l).trans (steady_put (by simp [nothing]) elsewhere).undisturbed

theorem steady_openFile (directory : destination logs ≠ l) (file : destination (logFile logs) ≠ l) :
    Steady l fs (openFile logs fs).1 := by
  have outside : l ∉ [destination logs] := fun member => directory (List.mem_singleton.mp member).symm
  obtain ⟨made, widened, same | ⟨nothing, same⟩⟩ := openFile_cases logs fs
  · exact same ▸ widened.steady outside
  · rw [same]
    exact (widened.steady outside).trans (steady_put (by simp [nothing]) file)

end Logging

namespace Command

open Library (Operation)
open Storage (FileSystem Path)

def Action.Edits : Action → Prop
  | .save _ _ _ => True
  | .delete _ _ => True
  | _ => False

/-- The operation on the library that an action asks for; a text to save is taken from its file. -/
def Action.operation? (fs : FileSystem) : Action → Option Operation
  | .save kind name source =>
    (Storage.readText fs source).toOption.map fun content => .save kind name.wide content.wide
  | .delete kind name => some (.delete kind name.wide)
  | _ => none

def Action.notice? : Action → Option Message
  | .save kind name _ => some (.saved kind name.wide.strip)
  | .delete kind name => some (.deleted kind name.wide)
  | _ => none

theorem Action.edits_of_operation? {fs : FileSystem} {a : Action} {op : Operation}
    (asked : a.operation? fs = some op) : a.Edits := by
  cases a with
  | save => trivial
  | delete => trivial
  | _ => cases asked

/-- Arguments and files hold characters only. -/
theorem Action.whole_of_operation? {fs : FileSystem} {a : Action} {op : Operation}
    (asked : a.operation? fs = some op) {kind : Library.Kind} {name content : WideText}
    (stores : op.Stores kind name content) : name.Whole ∧ content.Whole := by
  obtain ⟨spelled, rfl, trimmed, -⟩ := stores
  cases a with
  | save kind' name' source =>
    obtain ⟨text, -, same⟩ := Option.map_eq_some_iff.mp asked
    cases same
    rw [← trimmed, WideText.strip_wide]
    exact ⟨WideText.whole_wide _, WideText.whole_wide _⟩
  | delete => cases asked
  | _ => cases asked

section Perform

variable {host : Host} {console : Console} {fs : FileSystem} {i : Invocation}

/-- An edit on the way to the file of the library: what the operation that is asked for makes of the
library that was loaded. -/
structure Edit (host : Host) (fs : FileSystem) (i : Invocation) (l : Library) (op : Operation)
    (l' : Library) : Prop where
  loaded : Library.load host.room fs i.library .empty = (l, .ok ())
  asked : i.action.operation? fs = some op
  effect : ∃ answer, Library.Effect l op l' (.ok answer)

/-- What a command can come to. Only an edit writes the library, and it says so when that is done. -/
inductive Performs (host : Host) (console : Console) (fs : FileSystem) (i : Invocation) :
    Done → Prop
  | refused (f : Failure) : Performs host console fs i (fs, .error f)
  | shown (message : Message) (quiet : ¬ i.action.Edits) :
      Performs host console fs i (told console fs message)
  | exported {r : Rendering} {output : Path} (bytes : Text.Utf8.Bytes)
      (ending : Except Failure (Text × Nat)) (action : i.action = .render r)
      (named : r.output = some output) : Performs host console fs i
        ((fs.writeWithParents host.room.directories output bytes).1, ending)
  | edited {l l' : Library} {op : Operation} {fs' : FileSystem} {message : Message}
      (edit : Edit host fs i l op l') (flushed : l'.flush host.room fs i.library = (fs', .ok ()))
      (notice : i.action.notice? = some message) :
      Performs host console fs i (told console fs' message)
  | unwritten {l l' : Library} {op : Operation} {fs' : FileSystem} {f : Failure}
      (edit : Edit host fs i l op l') (failed : l'.flush host.room fs i.library = (fs', .error f)) :
      Performs host console fs i (fs', .error f)

theorem performs_flushed {l l' : Library} {op : Operation} {message : Message}
    (edit : Edit host fs i l op l') (notice : i.action.notice? = some message) :
    Performs host console fs i (flushed host console fs i.library l' message) := by
  unfold flushed
  split
  · next written => exact .edited edit written notice
  · next failed => exact .unwritten edit failed

theorem performs_render {r : Rendering} (action : i.action = .render r) (library : Library) :
    Performs host console fs i (renderCommand host console fs i.library library r) := by
  have quiet : ¬ i.action.Edits := by rw [action]; exact id
  unfold renderCommand
  dsimp only
  split
  · exact .refused _
  · split
    · exact .shown _ quiet
    · next output named =>
      rw [Document.files_writeOutput]
      exact .exported _ _ action named

theorem performs_save {l : Library} {kind : Library.Kind} {name : Text} {source : Path}
    (action : i.action = .save kind name source)
    (loaded : Library.load host.room fs i.library .empty = (l, .ok ())) :
    Performs host console fs i (saveCommand host console fs i.library l kind name source) := by
  unfold saveCommand
  split
  · exact .refused _
  · next content read =>
    split
    · exact .refused _
    · next l' snippet saved =>
      have asked : i.action.operation? fs = some (.save kind name.wide content.wide) := by
        rw [action, Action.operation?, read]
        rfl
      have effect : Library.Effect l (.save kind name.wide content.wide) l' (.ok (.saved snippet)) :=
        Library.perform_eq_iff.mp (by rw [Library.perform, saved])
      have named : snippet.name = name.wide.strip := by
        cases effect with
        | replaces trimmed => exact trimmed.symm
        | appends trimmed => exact trimmed.symm
      refine performs_flushed ⟨loaded, asked, _, effect⟩ ?_
      rw [action, Action.notice?, named]

theorem performs_delete {l : Library} {kind : Library.Kind} {name : Text}
    (action : i.action = .delete kind name)
    (loaded : Library.load host.room fs i.library .empty = (l, .ok ())) :
    Performs host console fs i (deleteCommand host console fs i.library l kind name) := by
  unfold deleteCommand
  split
  · exact .refused _
  · next l' deleted =>
    have asked : i.action.operation? fs = some (.delete kind name.wide) := by
      rw [action]
      rfl
    have effect : Library.Effect l (.delete kind name.wide) l' (.ok .deleted) :=
      Library.perform_eq_iff.mp (by rw [Library.perform, deleted])
    exact performs_flushed ⟨loaded, asked, _, effect⟩ (by rw [action]; rfl)

theorem performs (host : Host) (console : Console) (fs : FileSystem) (i : Invocation) :
    Performs host console fs i (perform host console fs i) := by
  unfold perform
  split
  · exact .refused _
  · next l loaded =>
    split
    · next r action => exact performs_render action l
    · next kind action => exact .shown _ (by rw [action]; exact id)
    · next action => exact performs_save action loaded
    · next action => exact performs_delete action loaded

end Perform

end Command

end Folio
