import Folio.Console.Print
import Folio.Proofs.Command.Outcome
import Folio.Proofs.Library.Reloading

/-! Sessions: calls of the program one after the other over the same files. Between two calls a
library lives in its file only. -/
namespace Folio.Command

open Library (Operation)
open Storage (FileSystem Path)
open Storage.FileSystem

/-- One call of the program: what it prints to, the settings that it finds, and the words. -/
structure Call where
  console : Console
  configured : Except Failure Settings
  words : List Text

namespace Call

variable (host : Host) (c : Call)

def run (fs : FileSystem) : Result := Command.run host c.console c.configured fs c.words

/-- The settings and the command that a call comes to, if it comes to one. -/
def invocation? : Option (Settings × Invocation) :=
  match c.configured with
  | .error _ => none
  | .ok settings => (parse settings c.words).toOption.map fun i => (settings, i)

def action? : Option Action := c.invocation?.map fun called => called.2.action

/-- The files that the command of a call finds: the log is open by then. -/
def opened (fs : FileSystem) : FileSystem :=
  match c.invocation? with
  | none => fs
  | some (settings, _) => (Logging.configure host.logs fs settings.fileLogs).1

/-- The call is one of a command that changes the library, and it exits with 0. -/
def Changes (fs : FileSystem) : Prop :=
  (∃ action, c.action? = some action ∧ action.Edits) ∧ (c.run host fs).ending = .ok 0

/-- The operation that a call has carried out on the library, if it has. -/
def edit? (fs : FileSystem) : Option Operation :=
  match c.action?, (c.run host fs).ending with
  | some action, .ok 0 => action.operation? (c.opened host fs)
  | _, _ => none

/-- The call is about the library at a path, neither its output leads to the place of the library or
through it nor is the log or its directory there, and what it has to say of a change can be
printed. -/
structure Minds (p : Path) : Prop where
  library : ∀ settings i, c.invocation? = some (settings, i) → i.library = p
  output : ∀ r, c.action? = some (.render r) → ∀ output ∈ r.output, destination p ∉ way output
  log : ∀ settings i, c.invocation? = some (settings, i) → settings.fileLogs = true →
    destination host.logs ≠ destination p ∧
      destination (Logging.logFile host.logs) ≠ destination p
  notice : ∀ action message, c.action? = some action → action.notice? = some message →
    ∃ said, c.console.out message = .ok said

end Call

/-- The place of a library from which a session can begin: no missing directory hides what stands
there, the path does not lead to it before its end, and no half of a surrogate pair is loaded from
it. -/
structure Ready (room : Room) (fs : FileSystem) (p : Path) : Prop where
  visible : ¬ Hidden fs p
  straight : destination p ∉ way p.parent
  whole : ∀ l, Library.load room fs p .empty = (l, .ok ()) → l.Whole

/-- The file at a path is that of a library, and from then on it is loaded from there. -/
structure Stored (room : Room) (fs : FileSystem) (p : Path) (l : Library) : Prop where
  whole : l.Whole
  bytes : fs.read p = .ok (Text.Utf8.encode l.write.replaced)
  loads : ∀ fresh, Library.load room fs p fresh = (l.seeded, .ok ())

/-- What a call does to the library at a path. A save or a delete that exits with 0 stores what it
makes of the library that was there to load; any other call leaves what is at the path, or the lack
of anything, as it was. A text to save is taken from its file once the log is open, which takes no
text away. -/
structure Follows (host : Host) (p : Path) (fs : FileSystem) (c : Call) : Prop where
  saved : ∀ kind name source, c.action? = some (.save kind name source) →
    (c.run host fs).ending = .ok 0 → ∃ l content l',
      Library.load host.room fs p .empty = (l, .ok ()) ∧
      Storage.readText (c.opened host fs) source = .ok content ∧
      Library.Effect l (.save kind name.wide content.wide) l'
        (.ok (.saved ⟨name.strip.wide, content.wide⟩)) ∧
      Stored host.room (c.run host fs).files p l' ∧ l'.seeded = l'
  deleted : ∀ kind name, c.action? = some (.delete kind name) → (c.run host fs).ending = .ok 0 →
    ∃ l l', Library.load host.room fs p .empty = (l, .ok ()) ∧
      Library.Effect l (.delete kind name.wide) l' (.ok .deleted) ∧
      Stored host.room (c.run host fs).files p l'
  kept : ¬ c.Changes host fs → ∀ e, (c.run host fs).files.find p = .ok e ↔ fs.find p = .ok e
  opening : ∀ q bytes, fs.read q = .ok bytes → (c.opened host fs).read q = .ok bytes

section Run

variable {host : Host} {console : Console} {fs : FileSystem} {p : Path} {c : Call}

theorem files_complain (console : Console) (fs : FileSystem) (message : Message) :
    (complain console fs message).files = fs := by
  unfold complain
  split <;> rfl

theorem files_conclude (console : Console) (d : Done) : (conclude console d).files = d.1 := by
  unfold conclude
  split
  · rfl
  · split
    · exact files_complain ..
    · rfl

theorem ending_conclude_error (console : Console) (fs : FileSystem) (f : Failure) :
    (conclude console (fs, .error f)).ending ≠ .ok 0 := by
  simp only [conclude, complain]
  split
  · split <;> simp
  · simp

theorem ending_conclude_told {message : Message} (printed : ∃ said, console.out message = .ok said)
    (fs : FileSystem) : (conclude console (told console fs message)).ending = .ok 0 := by
  obtain ⟨said, printed⟩ := printed
  rw [told, printed]
  rfl

theorem invocation?_eq_some_iff {settings : Settings} {i : Invocation} :
    c.invocation? = some (settings, i) ↔
      c.configured = .ok settings ∧ parse settings c.words = .ok i := by
  unfold Call.invocation?
  cases c.configured with
  | error f => simp
  | ok settings' =>
    simp only [Option.map_eq_some_iff, Except.toOption_eq_some_iff, Prod.mk.injEq]
    constructor
    · rintro ⟨i', parsed, rfl, rfl⟩
      exact ⟨rfl, parsed⟩
    · rintro ⟨⟨⟩, parsed⟩
      exact ⟨i, parsed, rfl, rfl⟩

theorem run_of_invocation {settings : Settings} {i : Invocation}
    (called : c.invocation? = some (settings, i)) :
    c.run host fs = conclude c.console (perform host c.console (c.opened host fs) i) := by
  obtain ⟨loaded, parsed⟩ := invocation?_eq_some_iff.mp called
  unfold Call.run Command.run Call.opened
  simp only [loaded, parsed, called]

theorem files_of_no_invocation (none : c.invocation? = none) : (c.run host fs).files = fs := by
  unfold Call.invocation? at none
  unfold Call.run Command.run
  split
  · exact files_complain ..
  · rfl
  · next settings loaded =>
    rw [loaded] at none
    split
    · rfl
    · rfl
    · next i parsed => simp [parsed, Except.toOption] at none

theorem action?_of_invocation {settings : Settings} {i : Invocation}
    (called : c.invocation? = some (settings, i)) : c.action? = some i.action := by
  rw [Call.action?, called]
  rfl

theorem minds_of_invocation {settings : Settings} {i : Invocation}
    (called : c.invocation? = some (settings, i)) (library : i.library = p)
    (output : ∀ r, i.action = .render r → ∀ output ∈ r.output, destination p ∉ way output)
    (log : settings.fileLogs = true → destination host.logs ≠ destination p ∧
      destination (Logging.logFile host.logs) ≠ destination p)
    (notice : ∀ message, i.action.notice? = some message →
      ∃ said, c.console.out message = .ok said) : c.Minds host p where
  library settings' i' called' := by
    obtain ⟨rfl, rfl⟩ := Prod.mk.inj (Option.some.inj (called.symm.trans called'))
    exact library
  output r acts := output r (Option.some.inj ((action?_of_invocation called).symm.trans acts))
  log settings' i' called' := by
    obtain ⟨rfl, rfl⟩ := Prod.mk.inj (Option.some.inj (called.symm.trans called'))
    exact log
  notice action message acts := by
    obtain rfl := Option.some.inj ((action?_of_invocation called).symm.trans acts)
    exact notice message

theorem not_changes_of_invocation {settings : Settings} {i : Invocation}
    (called : c.invocation? = some (settings, i)) (quiet : ¬ i.action.Edits) :
    ¬ c.Changes host fs := by
  rintro ⟨⟨action, acts, edits⟩, -⟩
  rw [action?_of_invocation called] at acts
  cases acts
  exact quiet edits

theorem steady_opened (minds : c.Minds host p) :
    Steady (destination p) fs (c.opened host fs) := by
  unfold Call.opened
  split
  · exact Steady.refl _ fs
  · next settings i called =>
    cases wants : settings.fileLogs with
    | false => exact Steady.refl _ fs
    | true =>
      obtain ⟨directory, file⟩ := minds.log settings i called wants
      rw [Logging.files_configure]
      exact Logging.steady_openFile directory file

theorem read_opened {q : Path} {bytes : Text.Utf8.Bytes} (readable : fs.read q = .ok bytes) :
    (c.opened host fs).read q = .ok bytes := by
  unfold Call.opened
  split
  · exact readable
  · next settings i called =>
    cases wants : settings.fileLogs with
    | false => exact readable
    | true =>
      have there := (find_eq_ok_iff.mp (read_eq_ok_iff.mp readable)).2
      rw [Logging.files_configure]
      refine (Undisturbed.read_iff ?_ (not_hidden_of_read readable) bytes).mpr readable
      exact Logging.undisturbed_openFile fun _ => ⟨bytes, there⟩

/-- The command loads after the log was opened, and nothing of that is at the place of the library. -/
theorem load_opened (minds : c.Minds host p) (ready : Ready host.room fs p) (fresh : Library) :
    Library.load host.room (c.opened host fs) p fresh = Library.load host.room fs p fresh :=
  Library.load_congr ((steady_opened minds).find_iff ready.visible) fresh

theorem whole_of_edit {i : Invocation} {l l' : Library} {op : Operation}
    (minds : c.Minds host i.library) (ready : Ready host.room fs i.library)
    (edit : Edit host (c.opened host fs) i l op l') : l'.Whole := by
  obtain ⟨answer, effect⟩ := edit.effect
  have whole : l.Whole := ready.whole l (load_opened minds ready _ ▸ edit.loaded)
  exact whole.of_effect (fun _ _ _ => Action.whole_of_operation? edit.asked) effect

/-- A call that does not change the library leaves its place as it was. -/
theorem steady_run (minds : c.Minds host p) (ready : Ready host.room fs p)
    (quiet : ¬ c.Changes host fs) : Steady (destination p) fs (c.run host fs).files := by
  cases called : c.invocation? with
  | none =>
    rw [files_of_no_invocation called]
    exact Steady.refl _ fs
  | some pair =>
    obtain ⟨settings, i⟩ := pair
    have ran : c.run host fs = _ := run_of_invocation called
    have action := action?_of_invocation called
    obtain rfl := minds.library settings i called
    refine (steady_opened minds).trans ?_
    rw [ran, files_conclude]
    generalize outcome : perform host c.console (c.opened host fs) i = done at ran
    have performed : Performs host c.console (c.opened host fs) i done := outcome ▸ performs ..
    cases performed with
    | refused f => exact Steady.refl _ _
    | shown message => exact Steady.refl _ _
    | exported bytes ending render named =>
      rw [render] at action
      exact steady_writeWithParents (minds.output _ action _ named) bytes
    | edited edit _ notice =>
      refine absurd ⟨⟨_, action, Action.edits_of_operation? edit.asked⟩, ?_⟩ quiet
      rw [ran]
      exact ending_conclude_told (minds.notice _ _ action notice) _
    | unwritten edit failed =>
      have whole := whole_of_edit minds ready edit
      exact (Library.widened_of_flush_error whole failed).steady ready.straight

theorem stored_of_flush {room : Room} {fs' : FileSystem} {l : Library}
    (flushed : l.flush room fs p = (fs', .ok ())) : Stored room fs' p l := by
  obtain ⟨whole, written⟩ := Library.flush_eq_ok_iff.mp flushed
  have bytes := read_of_writeWithParents written
  exact ⟨whole, bytes, Library.load_of_read whole bytes⟩

theorem edit_of_changes (minds : c.Minds host p) (ready : Ready host.room fs p)
    (changes : c.Changes host fs) :
    ∃ l op l' answer, Library.load host.room fs p .empty = (l, .ok ()) ∧
      c.edit? host fs = some op ∧ Library.Effect l op l' (.ok answer) ∧
      Stored host.room (c.run host fs).files p l' := by
  obtain ⟨⟨action, acts, edits⟩, succeeds⟩ := changes
  have asks : c.edit? host fs = action.operation? (c.opened host fs) := by
    simp only [Call.edit?, acts, succeeds]
  obtain ⟨⟨settings, i⟩, called, rfl⟩ := Option.map_eq_some_iff.mp acts
  obtain rfl := minds.library settings i called
  rw [run_of_invocation called] at succeeds ⊢
  rw [files_conclude, asks]
  have performed := performs host c.console (c.opened host fs) i
  generalize perform host c.console (c.opened host fs) i = done at performed succeeds
  cases performed with
  | refused f => exact absurd succeeds (ending_conclude_error _ _ f)
  | shown _ quiet => exact absurd edits quiet
  | exported _ _ render =>
    rw [render] at edits
    exact edits.elim
  | edited edit flushed =>
    obtain ⟨answer, effect⟩ := edit.effect
    have before := load_opened minds ready .empty ▸ edit.loaded
    exact ⟨_, _, _, answer, before, edit.asked, effect, stored_of_flush flushed⟩
  | unwritten => exact (ending_conclude_error _ _ _ succeeds).elim

theorem edit?_eq_none (quiet : ¬ c.Changes host fs) : c.edit? host fs = none := by
  unfold Call.edit?
  split
  · next action acts succeeds =>
    cases asked : action.operation? (c.opened host fs) with
    | none => rfl
    | some op => exact absurd ⟨⟨_, acts, Action.edits_of_operation? asked⟩, succeeds⟩ quiet
  · rfl

theorem follows_of_minds (minds : c.Minds host p) (ready : Ready host.room fs p) :
    Follows host p fs c where
  saved kind name source acts succeeds := by
    obtain ⟨l, op, l', answer, loaded, edit, effect, stored⟩ :=
      edit_of_changes minds ready ⟨⟨_, acts, trivial⟩, succeeds⟩
    simp only [Call.edit?, acts, succeeds, Action.operation?] at edit
    obtain ⟨content, read, rfl⟩ := Option.map_eq_some_iff.mp edit
    have seeded := effect.seeded_of_save (Library.seeded_of_load loaded)
    refine ⟨l, content, l', loaded, Except.toOption_eq_some_iff.mp read, ?_, stored, seeded⟩
    rw [← WideText.strip_wide]
    cases effect with
    | replaces trimmed nonblank first =>
      subst trimmed
      exact .replaces rfl nonblank first
    | appends trimmed nonblank new =>
      subst trimmed
      exact .appends rfl nonblank new
  deleted kind name acts succeeds := by
    obtain ⟨l, op, l', answer, loaded, edit, effect, stored⟩ :=
      edit_of_changes minds ready ⟨⟨_, acts, trivial⟩, succeeds⟩
    simp only [Call.edit?, acts, succeeds, Action.operation?, Option.some.injEq] at edit
    subst edit
    cases effect with
    | deletes first => exact ⟨l, _, loaded, .deletes first, stored⟩
  kept quiet := (steady_run minds ready quiet).find_iff ready.visible
  opening q bytes := read_opened

theorem ready_run (minds : c.Minds host p) (ready : Ready host.room fs p) :
    Ready host.room (c.run host fs).files p := by
  by_cases changes : c.Changes host fs
  · obtain ⟨_, _, l', _, -, -, -, stored⟩ := edit_of_changes minds ready changes
    refine ⟨not_hidden_of_read stored.bytes, ready.straight, fun l loaded => ?_⟩
    rw [stored.loads] at loaded
    cases loaded
    exact stored.whole.seeded
  · have steady := steady_run minds ready changes
    refine ⟨steady.not_hidden ready.visible, ready.straight, fun l loaded => ready.whole l ?_⟩
    rwa [Library.load_congr (steady.find_iff ready.visible)] at loaded

/-- What is loaded after a call is what its operation makes of what was loaded before. -/
theorem load_run_iff (minds : c.Minds host p) (ready : Ready host.room fs p) {l' : Library} :
    Library.load host.room (c.run host fs).files p .empty = (l', .ok ()) ↔
      ∃ l, Library.load host.room fs p .empty = (l, .ok ()) ∧
        l' = l.replay (c.edit? host fs).toList := by
  by_cases changes : c.Changes host fs
  · obtain ⟨l, op, next, answer, before, edit, effect, stored⟩ :=
      edit_of_changes minds ready changes
    -- a delete may have emptied a kind, which the next load fills again
    have replayed : l.replay [op] = next.seeded := by
      rw [Library.replay, List.foldl_cons, List.foldl_nil, Library.perform_of_effect effect]
    rw [stored.loads, edit, Option.toList_some, before]
    simp [replayed, eq_comm]
  · rw [Library.load_congr ((steady_run minds ready changes).find_iff ready.visible),
      edit?_eq_none changes]
    simp [Library.replay]

end Run

section Sessions

variable {host : Host} {fs : FileSystem} {p : Path}

def session (host : Host) (fs : FileSystem) (calls : List Call) : FileSystem :=
  calls.foldl (fun fs c => (c.run host fs).files) fs

def performed (host : Host) : FileSystem → List Call → List Operation
  | _, [] => []
  | fs, c :: calls => (c.edit? host fs).toList ++ performed host (c.run host fs).files calls

theorem ready_session (ready : Ready host.room fs p) {calls : List Call}
    (minds : ∀ c ∈ calls, c.Minds host p) : Ready host.room (session host fs calls) p := by
  induction calls generalizing fs with
  | nil => exact ready
  | cons c calls ih =>
    obtain ⟨first, later⟩ := List.forall_mem_cons.mp minds
    exact ih (ready_run first ready) later

theorem load_session_iff (ready : Ready host.room fs p) {calls : List Call}
    (minds : ∀ c ∈ calls, c.Minds host p) {l' : Library} :
    Library.load host.room (session host fs calls) p .empty = (l', .ok ()) ↔
      ∃ l, Library.load host.room fs p .empty = (l, .ok ()) ∧
        l' = l.replay (performed host fs calls) := by
  induction calls generalizing fs with
  | nil => exact ⟨fun loaded => ⟨l', loaded, rfl⟩, fun ⟨l, loaded, same⟩ => same ▸ loaded⟩
  | cons c calls ih =>
    obtain ⟨first, later⟩ := List.forall_mem_cons.mp minds
    refine (ih (ready_run first ready) later).trans ?_
    simp only [load_run_iff first ready, performed, Library.replay, List.foldl_append]
    constructor
    · rintro ⟨_, ⟨l, loaded, rfl⟩, rfl⟩
      exact ⟨l, loaded, rfl⟩
    · rintro ⟨l, loaded, rfl⟩
      exact ⟨_, ⟨l, loaded, rfl⟩, rfl⟩

/-- In any session, over any files, every call does to the library at a path what an ordered map
does, or leaves its place as it was. After the whole session it holds what the operations of the
calls, in their order, make of what it held before. -/
theorem session_follows (ready : Ready host.room fs p) {calls : List Call}
    (minds : ∀ c ∈ calls, c.Minds host p) :
    (∀ before c after, calls = before ++ c :: after →
      Follows host p (session host fs before) c) ∧
    ∀ l', Library.load host.room (session host fs calls) p .empty = (l', .ok ()) ↔
      ∃ l, Library.load host.room fs p .empty = (l, .ok ()) ∧
        l' = l.replay (performed host fs calls) := by
  refine ⟨?_, fun l' => load_session_iff ready minds⟩
  rintro before c after rfl
  obtain ⟨earlier, later⟩ := List.forall_mem_append.mp minds
  exact follows_of_minds (List.forall_mem_cons.mp later).1 (ready_session ready earlier)

def small : Text :=
  "\x7b\"template\":[\x7b\"name\":\"T\",\"content\":\"\"\x7d],".toList ++
    "\"data\":[\x7b\"name\":\"E\",\"content\":\"\"\x7d],".toList ++
    "\"style\":[\x7b\"name\":\"S\",\"content\":\"\"\x7d]\x7d".toList

/-- An entry is saved with blanks around its name, another is deleted, deleted in vain, and a
document is written, with the log in its file. -/
theorem session_follows_edits :
    let host : Host := ⟨⟨990, 985, by decide⟩, Path.ofText "logs".toList⟩
    let p := Path.ofText "lib.json".toList
    let fs : FileSystem := ⟨[(["d.txt".toList], .file (Text.Utf8.encode ['1'])),
      (["lib.json".toList], .file (Text.Utf8.encode small))]⟩
    let settings : Settings := ⟨"INFO".toList, p, .html, true⟩
    let call (words : List String) : Call := ⟨.plain, .ok settings, words.map String.toList⟩
    let save := call ["save", "data", " A ", "d.txt"]
    let delete := call ["delete", "data", "E"]
    let render := call ["render", "--template", "d.txt", "--output", "o"]
    let calls := [save, delete, delete, render]
    Ready host.room fs p ∧ (∀ c ∈ calls, c.Minds host p) ∧ save.Changes host fs ∧
      (∀ before c after, calls = before ++ c :: after →
        Follows host p (session host fs before) c) ∧
      ∀ l', Library.load host.room (session host fs calls) p .empty = (l', .ok ()) ↔
        ∃ l, Library.load host.room fs p .empty = (l, .ok ()) ∧
          l' = l.replay (performed host fs calls) := by
  intro host p fs settings call save delete render calls
  have ready : Ready host.room fs p := by
    refine ⟨fun hidden => absurd hidden.1 (by decide), by decide, fun l loaded => ?_⟩
    have read : (Library.load host.room fs p .empty).1 =
        ⟨[⟨[.char 'T'], []⟩], [⟨[.char 'E'], []⟩], [⟨[.char 'S'], []⟩]⟩ := by decide +kernel
    obtain rfl := (congrArg Prod.fst loaded).symm.trans read
    intro kind
    cases kind <;> decide
  have unlogged : destination host.logs ≠ destination p ∧
      destination (Logging.logFile host.logs) ≠ destination p := by decide
  have outside : destination p ∉ way (Path.ofText ['o']) := by decide
  obtain ⟨saving, saves, intoLibrary, saved⟩ : ∃ i, save.invocation? = some (settings, i) ∧
      i.library = p ∧ i.action = .save .data [' ', 'A', ' '] (Path.ofText "d.txt".toList) :=
    ⟨_, rfl, rfl, rfl⟩
  obtain ⟨deleting, deletes, fromLibrary, deleted⟩ : ∃ i, delete.invocation? = some (settings, i) ∧
      i.library = p ∧ i.action = .delete .data ['E'] := ⟨_, rfl, rfl, rfl⟩
  obtain ⟨exporting, exports, withLibrary, r, rendered, named⟩ : ∃ i,
      render.invocation? = some (settings, i) ∧ i.library = p ∧
      ∃ r, i.action = .render r ∧ r.output = some (Path.ofText ['o']) :=
    ⟨_, rfl, rfl, _, rfl, rfl⟩
  have saveMinds := minds_of_invocation saves intoLibrary (by simp [saved]) (fun _ => unlogged)
    (by simp only [saved]; rintro _ ⟨⟩; exact ⟨_, rfl⟩)
  have deleteMinds := minds_of_invocation deletes fromLibrary (by simp [deleted])
    (fun _ => unlogged) (by simp only [deleted]; rintro _ ⟨⟩; exact ⟨_, rfl⟩)
  have renderMinds := minds_of_invocation exports withLibrary
    (by simpa [rendered, named] using outside) (fun _ => unlogged)
    (by simp only [rendered]; rintro _ ⟨⟩)
  have minds : ∀ c ∈ calls, c.Minds host p := by
    simp only [calls, List.forall_mem_cons]
    exact ⟨saveMinds, deleteMinds, deleteMinds, renderMinds, List.forall_mem_nil _⟩
  have changes : save.Changes host fs := by
    have status : (save.run host fs).ending.toOption = some 0 := by decide +kernel
    exact ⟨⟨saving.action, action?_of_invocation saves, by rw [saved]; trivial⟩,
      Except.toOption_eq_some_iff.mp status⟩
  exact ⟨ready, minds, changes, session_follows ready minds⟩

theorem not_follows_of_contains {c : Call} (absent : fs.contains p = false)
    (quiet : ¬ c.Changes host fs) (there : (c.run host fs).files.contains p = true) :
    ¬ Follows host p fs c := by
  intro follows
  obtain ⟨e, found⟩ := contains_iff.mp there
  have before : fs.contains p = true := contains_iff.mpr ⟨e, (follows.kept quiet e).mp found⟩
  exact Bool.eq_false_iff.mp absent before

/-- Calls that do not change a library, at whose path nothing is before but something afterwards: a
directory on the way had hidden it; the log or its directory is in its place; the output leads
through its place; its path leads to its place before its end. And a call that changes one but cannot
print its notice, so that it exits with 1. -/
theorem not_follows :
    let host : Host := ⟨⟨990, 985, by decide⟩, Path.ofText "logs".toList⟩
    let fs : FileSystem := ⟨[(["l.json".toList], .file (Text.Utf8.encode small)),
      (["t.tpl".toList], .file (Text.Utf8.encode ['x']))]⟩
    let call (out : Message → Except Failure Text) (library : String) (logs : Bool)
        (words : List String) : Path × Call :=
      let p := Path.ofText library.toList
      (p, ⟨⟨out, fun _ => .ok []⟩, .ok ⟨"INFO".toList, p, .html, logs⟩, words.map String.toList⟩)
    let silent : Message → Except Failure Text := fun _ => .ok []
    let full : Message → Except Failure Text := fun _ => .error (.stream "No space left".toList)
    let saving := call full "l.json" false ["save", "data", "A", "t.tpl"]
    (∀ pc ∈ [
        call silent "a/../l.json" false
          ["render", "--template", "t.tpl", "--format", "txt", "--output", "a/o.txt"],
        call silent "logs/templatimator.log" true ["list"],
        call silent "logs" true ["list"],
        call silent "lib.json" false
          ["render", "--template", "t.tpl", "--format", "txt", "--output", "lib.json/o.txt"],
        call silent "a/../a" false ["save", "data", "A", "t.tpl"]],
      fs.contains pc.1 = false ∧ ¬ pc.2.Changes host fs ∧ ¬ Follows host pc.1 fs pc.2) ∧
    (Library.load host.room fs saving.1 .empty).2.isOk = true ∧
      (saving.2.run host fs).ending.toOption = some 1 ∧ ¬ Follows host saving.1 fs saving.2 := by
  intro host fs call silent full saving
  have intrudes (p : Path) (c : Call) (absent : fs.contains p = false)
      (quiet : ¬ c.Changes host fs) (there : (c.run host fs).files.contains p = true) :
      fs.contains p = false ∧ ¬ c.Changes host fs ∧ ¬ Follows host p fs c :=
    ⟨absent, quiet, not_follows_of_contains absent quiet there⟩
  have fails {c : Call} (ended : (c.run host fs).ending.toOption = some 1) :
      ¬ c.Changes host fs := by
    rintro ⟨-, succeeds⟩
    simp [succeeds, Except.toOption] at ended
  constructor
  · simp only [List.forall_mem_cons]
    exact ⟨intrudes _ _ (by decide) (not_changes_of_invocation rfl id) (by decide +kernel),
      intrudes _ _ (by decide) (not_changes_of_invocation rfl id) (by decide +kernel),
      intrudes _ _ (by decide) (not_changes_of_invocation rfl id) (by decide +kernel),
      intrudes _ _ (by decide) (not_changes_of_invocation rfl id) (by decide +kernel),
      intrudes _ _ (by decide) (fails (by decide +kernel)) (by decide +kernel),
      List.forall_mem_nil _⟩
  · have ended : (saving.2.run host fs).ending.toOption = some 1 := by decide +kernel
    refine ⟨by decide +kernel, ended, fun follows => ?_⟩
    have before : fs.find saving.1 = .ok (.file (Text.Utf8.encode small)) := rfl
    have after : (saving.2.run host fs).files.find saving.1 ≠
        .ok (.file (Text.Utf8.encode small)) := by decide +kernel
    exact after ((follows.kept (fails ended) _).mpr before)

end Sessions

end Folio.Command
