import Folio.Command.Run
import Folio.Console.Print
import Folio.Proofs.Json.Limits
import Folio.Proofs.Storage.Writing
import Folio.Proofs.Text.Utf8

/-! What loading the file of a library can end with, and what the command line makes of it. -/
namespace Folio.Library

open Json (Overruns WideValue integerDigitLimit)
open Storage (FileSystem Path readText)
open Text.Utf8 (Bytes encode decode)

/-- The failures that a load announces: reports on the data or on the storage. -/
def Announced : Failure → Prop
  | .report r => r.kind = .dataValidation ∨ r.kind = .storage
  | _ => False

/-- A success, or a failure that is announced. -/
def Documented {α : Type} (outcome : Except Failure α) : Prop :=
  ∀ f, outcome = .error f → Announced f

/-- Contents of a file that are read to an end: the bytes of a text within the limits. -/
def Readable (room : Room) (bytes : Bytes) : Prop :=
  ∃ s, bytes = encode s ∧ ¬ Overruns room.nesting s.universalNewlines

@[simp] theorem documented_ok {α : Type} (a : α) : Documented (.ok a) := nofun

@[simp] theorem documented_error {α : Type} (f : Failure) :
    Documented (.error f : Except Failure α) ↔ Announced f :=
  ⟨fun documented => documented f rfl, fun announced _ same => (Except.error.inj same) ▸ announced⟩

section Data

variable {kind : Kind} {object : WideFields} {p : Problem}

theorem kind_of_readSnippets {items : List WideValue} (failed : readSnippets kind items = .error p)
    (path : Path) : (p.report path).kind = .dataValidation := by
  induction items with
  | nil => cases failed
  | cons entry rest ih =>
    unfold readSnippets at failed
    split at failed
    · cases failed
      rfl
    · cases others : readSnippets kind rest with
      | ok snippets => simp [others, Except.map] at failed
      | error p' =>
        rw [others] at failed
        cases failed
        exact ih others

theorem kind_of_readKind (failed : readKind object kind = .error p) (path : Path) :
    (p.report path).kind = .dataValidation := by
  unfold readKind at failed
  split at failed
  · cases failed
  · exact kind_of_readSnippets failed path
  · cases failed
    rfl

theorem kind_of_fill {kinds : List Kind} {l l' : Library}
    (failed : fill object kinds l = (l', .error p)) (path : Path) :
    (p.report path).kind = .dataValidation := by
  induction kinds generalizing l with
  | nil => cases failed
  | cons kind kinds ih =>
    unfold fill at failed
    split at failed
    · rename_i unreadable
      cases failed
      exact kind_of_readKind unreadable path
    · exact ih failed
    · exact ih failed

end Data

section Load

variable {room : Room} {fs : FileSystem} {path : Path}

theorem documented_readObject (path : Path) (document : Text) :
    Documented (readObject room path document) ↔ ¬ Overruns room.nesting document := by
  unfold readObject
  split
  · rename_i blank
    exact iff_of_true (documented_ok _) (Json.not_overruns_of_allBlank blank)
  · split
    all_goals
      rename_i read
      simp [Announced, Problem.report, Overruns, read]

theorem readable_encode (s : Text) :
    Readable room (encode s) ↔ ¬ Overruns room.nesting s.universalNewlines := by
  constructor
  · rintro ⟨t, same, within⟩
    have decoded := Text.Utf8.decode_encode t
    rw [← same, Text.Utf8.decode_encode s] at decoded
    cases decoded
    exact within
  · exact fun within => ⟨s, rfl, within⟩

theorem documented_readFile : Documented (readFile room fs path) ↔
    ∀ bytes, fs.read path = .ok bytes → Readable room bytes := by
  unfold readFile
  split
  · unfold readText
    cases read : fs.read path with
    | error e => simp [Announced, Problem.report]
    | ok bytes =>
      cases decoded : decode bytes with
      | error fault =>
        refine iff_of_false (by simp [decoded, Announced]) fun readable => ?_
        obtain ⟨s, rfl, -⟩ := readable bytes rfl
        rw [Text.Utf8.decode_encode] at decoded
        cases decoded
      | ok s =>
        obtain rfl := Text.Utf8.decode_eq_ok_iff.mp decoded
        simp [documented_readObject, readable_encode]
  · rename_i absent
    refine iff_of_true (documented_ok _) fun bytes read => ?_
    exact absurd (FileSystem.contains_of_read read) absent

theorem documented_load (room : Room) (fs : FileSystem) (path : Path) (l : Library) :
    Documented (load room fs path l).2 ↔ Documented (readFile room fs path) := by
  unfold load
  cases readFile room fs path with
  | error f => simp
  | ok object =>
    dsimp only
    split
    · simp
    · rename_i filled
      simp [Announced, kind_of_fill filled path]

end Load

section Command

variable {room : Room} {fs : FileSystem} {path : Path} {f : Failure}

open Command (Host explain)

/-- A failure to load is announced, or it is one that the command line does not handle. -/
theorem explain_of_readObject {document : Text} (failed : readObject room path document = .error f) :
    Announced f ∨ explain f = none := by
  unfold readObject at failed
  split at failed
  · cases failed
  · split at failed
    · cases failed
    · cases failed
      exact .inl (.inl rfl)
    · cases failed
      exact .inl (.inl rfl)
    · cases failed
      exact .inr rfl
    · cases failed
      exact .inr rfl

theorem explain_of_readFile (failed : readFile room fs path = .error f) :
    Announced f ∨ explain f = none := by
  unfold readFile readText at failed
  split at failed
  · cases read : fs.read path with
    | error e =>
      simp only [read] at failed
      cases failed
      exact .inl (.inr rfl)
    | ok bytes =>
      cases decoded : decode bytes with
      | error fault =>
        simp only [read, decoded] at failed
        cases failed
        exact .inr rfl
      | ok s =>
        simp only [read, decoded] at failed
        exact explain_of_readObject failed
  · cases failed

theorem explain_of_load {l : Library} (failed : (load room fs path l).2 = .error f) :
    Announced f ∨ explain f = none := by
  unfold load at failed
  split at failed
  · rename_i unread
    cases failed
    exact explain_of_readFile unread
  · split at failed
    · cases failed
    · rename_i filled
      cases failed
      exact .inl (.inl (kind_of_fill filled path))

theorem explain_of_announced (announced : Announced f) : ∃ message, explain f = some message := by
  cases f with
  | report r => exact ⟨_, rfl⟩
  | _ => exact announced.elim

/-- What a user is told of a failure can always be set in lines. -/
theorem plain_explain {message : Message} (explained : explain f = some message) :
    ∃ said, Console.plain.err message = .ok said := by
  unfold explain at explained
  split at explained
  · cases explained
    split
    · exact ⟨_, rfl⟩
    · exact ⟨_, rfl⟩
  · cases explained
    exact ⟨_, rfl⟩
  · cases explained
    exact ⟨_, rfl⟩
  · cases explained

variable {host : Host} {console : Console}

theorem perform_of_load {i : Command.Invocation}
    (failed : (load host.room fs i.library .empty).2 = .error f) :
    Command.perform host console fs i = (fs, .error f) := by
  unfold Command.perform
  split
  · rename_i unloaded
    rw [unloaded] at failed
    cases failed
    rfl
  · rename_i loaded
    rw [loaded] at failed
    cases failed

theorem run_of_load {before : FileSystem} {words : List Text} {settings : Settings}
    {i : Command.Invocation} (invoked : Command.parse settings words = .ok i)
    (failed : (load host.room (Logging.configure host.logs before settings.fileLogs).1 i.library
      .empty).2 = .error f) :
    Command.run host console (.ok settings) before words = Command.conclude console
      ((Logging.configure host.logs before settings.fileLogs).1, .error f) := by
  unfold Command.run
  dsimp only
  rw [invoked]
  dsimp only
  rw [perform_of_load failed]

end Command

/-- A load ends as it announces exactly if the file is missing, cannot be read at all, or holds
the bytes of a text within the limits of the reader. A file that it fails on otherwise holds bytes
of no text, more digits in a row than an integer may have, or more brackets than are followed. The
command line tells the user of an announced failure, where it can, and exits with 1; any other ends
the run. -/
theorem documented_load_iff (room : Room) (fs : FileSystem) (path : Path) (l : Library) :
    (Documented (load room fs path l).2 ↔
      ∀ bytes, fs.read path = .ok bytes → Readable room bytes) ∧
    (∀ bytes, ¬ Readable room bytes → (∀ s, bytes ≠ encode s) ∨ ∃ s, bytes = encode s ∧
      ((∃ run, run <:+: s.universalNewlines ∧ integerDigitLimit < run.length ∧
        ∀ c ∈ run, (Json.asciiDigit? c).isSome = true) ∨
      room.nesting < s.universalNewlines.countP Json.isOpener)) ∧
    ∀ logs console settings before words (i : Command.Invocation) f,
      Command.parse settings words = .ok i →
      let host : Command.Host := ⟨room, logs⟩
      let files := (Logging.configure logs before settings.fileLogs).1
      (load room files i.library .empty).2 = .error f →
      (Announced f → ∃ message, Command.explain f = some message ∧
        ∀ said, console.err message = .ok said →
          Command.run host console (.ok settings) before words = ⟨files, [], said, .ok 1⟩) ∧
      (¬ Announced f →
        Command.run host console (.ok settings) before words = ⟨files, [], [], .error f⟩) := by
  refine ⟨(documented_load room fs path l).trans documented_readFile, fun bytes unreadable => ?_, ?_⟩
  · by_cases text : ∃ s, bytes = encode s
    · obtain ⟨s, rfl⟩ := text
      rw [readable_encode, not_not] at unreadable
      exact .inr ⟨s, rfl, unreadable.shows⟩
    · exact .inl (not_exists.mp text)
  · intro logs console settings before words i f invoked host files failed
    have ran : Command.run host console (.ok settings) before words =
        Command.conclude console (files, .error f) := run_of_load invoked failed
    rw [ran]
    constructor
    · intro announced
      obtain ⟨message, explained⟩ := explain_of_announced announced
      refine ⟨message, explained, fun said printed => ?_⟩
      simp only [Command.conclude, explained, Command.complain, printed]
    · intro unannounced
      have unhandled := (explain_of_load failed).resolve_left unannounced
      simp only [Command.conclude, unhandled]

/-- A file with half an object is told of, and the run exits with 1. -/
theorem documented_load_iff_unfinished :
    let room : Room := ⟨990, 985, by decide⟩
    let fs : FileSystem := ⟨[(["lib.json".toList], .file (encode ['\x7b']))]⟩
    let path : Path := ⟨.here, ["lib.json".toList]⟩
    let words := ["--library", "lib.json", "list"].map String.toList
    let settings : Settings := ⟨"INFO".toList, path, .html, false⟩
    Documented (load room fs path .empty).2 ∧ (load room fs path .empty).2 ≠ .ok () ∧
      ∃ said, Command.run ⟨room, path⟩ Console.plain (.ok settings) fs words =
        ⟨fs, [], said, .ok 1⟩ := by
  intro room fs path words settings
  have within : ¬ Overruns room.nesting ['\x7b'] := by
    intro overruns
    rcases overruns.shows with ⟨run, inside, long, -⟩ | deep
    · exact absurd (long.trans_le inside.length_le) (by decide)
    · exact absurd deep (by decide)
  have readable : ∀ bytes, fs.read path = .ok bytes → Readable room bytes := by
    intro bytes read
    cases read
    exact ⟨['\x7b'], rfl, within⟩
  have documented := (documented_load_iff room fs path .empty).1.mpr readable
  have invoked : Command.parse settings words = .ok ⟨settings.logLevel, path, .list none⟩ := rfl
  obtain ⟨f, failed⟩ : ∃ f, (load room fs path .empty).2 = .error f :=
    Except.isOk_eq_false_iff.mp (by decide +kernel)
  have told := (documented_load_iff room fs path .empty).2.2 path Console.plain settings fs words _ f
    invoked failed
  obtain ⟨message, explained, ended⟩ := told.1 (documented f failed)
  obtain ⟨said, printed⟩ := plain_explain explained
  exact ⟨documented, by rw [failed]; exact nofun, said, ended said printed⟩

/-- Files on which a load fails without announcing it: a byte that starts no character, an integer
of 4301 digits, and 5000 brackets where the stack has room for 990. -/
theorem not_documented_load :
    let room : Room := ⟨990, 985, by decide⟩
    let holding (bytes : Bytes) : FileSystem := ⟨[(["lib.json".toList], .file bytes)]⟩
    let path : Path := ⟨.here, ["lib.json".toList]⟩
    let words := ["--library", "lib.json", "list"].map String.toList
    let settings : Settings := ⟨"INFO".toList, path, .html, false⟩
    let fault : Text.Utf8.Fault := ⟨0, 1, 0xff, .invalidStart⟩
    (load room (holding [0xff]) path .empty).2 = .error (.undecodable fault) ∧
      ¬ Documented (load room (holding [0xff]) path .empty).2 ∧
      (Command.run ⟨room, path⟩ Console.plain (.ok settings) (holding [0xff]) words).ending =
        .error (.undecodable fault) ∧
      ¬ Documented (load room (holding (encode ('9' :: List.replicate 4300 '9'))) path .empty).2 ∧
      ¬ Documented (load room (holding (encode (List.replicate 5000 '['))) path .empty).2 := by
  intro room holding path words settings fault
  have read (bytes : Bytes) : (holding bytes).read path = .ok bytes := rfl
  have undecodable : decode [0xff] = .error fault := by
    rw [decode, Text.Utf8.decodeFrom]
    rfl
  have failed : (load room (holding [0xff]) path .empty).2 = .error (.undecodable fault) := by
    have there : (holding [0xff]).contains path = true := rfl
    simp [load, readFile, there, readText, read, undecodable]
  have overrunning {s : Text} (free : '\r' ∉ s) (overruns : Overruns room.nesting s) :
      ¬ Documented (load room (holding (encode s)) path .empty).2 := by
    rw [documented_load, documented_readFile]
    intro readable
    have within := (readable_encode s).mp (readable _ (read _))
    rw [Text.universalNewlines_eq_self free] at within
    exact within overruns
  have unannounced : ¬ Documented (load room (holding [0xff]) path .empty).2 := by
    rw [failed, documented_error]
    exact id
  refine ⟨failed, unannounced, ?_, overrunning ?_ ?_, overrunning ?_ ?_⟩
  · have invoked : Command.parse settings words = .ok ⟨settings.logLevel, path, .list none⟩ := rfl
    rw [run_of_load invoked failed]
    rfl
  · exact List.not_mem_cons_of_ne_of_not_mem (by decide) fun member =>
      absurd (List.eq_of_mem_replicate member) (by decide)
  · have digits : ∀ c ∈ List.replicate 4300 '9', (Json.asciiDigit? c).isSome = true :=
      fun c member => List.eq_of_mem_replicate member ▸ rfl
    refine Json.overruns_digits (d := 8) rfl digits ?_
    rw [List.length_cons, List.length_replicate]
    decide
  · exact fun member => absurd (List.eq_of_mem_replicate member) (by decide)
  · rw [← List.append_nil (List.replicate 5000 '[')]
    exact Json.overruns_nested (by decide) []

end Folio.Library
