import Folio.Library.Stored
import Folio.Proofs.Json.Blocks
import Folio.Proofs.Storage.Writing
import Folio.Proofs.Text.Utf8

/-! A library that is written to a file and loaded from it again is the same library. -/
namespace Folio.Library

open Json (Spells WideValue readValue)
open Storage (FileSystem Path)
open Text.Utf8 (encode)

def Snippet.Whole (snippet : Snippet) : Prop := snippet.name.Whole ∧ snippet.content.Whole

instance (snippet : Snippet) : Decidable snippet.Whole := inferInstanceAs (Decidable (_ ∧ _))

/-- No name and no content in the library holds half of a surrogate pair. -/
def Whole (l : Library) : Prop := ∀ kind, ∀ snippet ∈ l.entries kind, snippet.Whole

/-- What a library holds of a kind for which its file has the given snippets. -/
def orDefaults (kind : Kind) : List Snippet → List Snippet
  | [] => defaults kind
  | snippets => snippets

/-- A library whose empty kinds are filled. -/
def seeded (l : Library) : Library :=
  ⟨orDefaults .template l.templates, orDefaults .data l.data, orDefaults .style l.styles⟩

theorem mem_all (kind : Kind) : kind ∈ Kind.all := by cases kind <;> decide

section Values

def Snippet.value (snippet : Snippet) : WideValue :=
  .map [(Text.wide "name".toList, .text snippet.name),
    (Text.wide "content".toList, .text snippet.content)]

@[simp] theorem Snippet.ofValue?_value (snippet : Snippet) :
    Snippet.ofValue? snippet.value = some snippet := by
  obtain ⟨name, content⟩ := snippet
  rfl

theorem Snippet.spells_write {snippet : Snippet} (whole : snippet.Whole) (depth : Nat) :
    Spells (readValue (depth + 1)) snippet.write.replaced snippet.value := by
  have distinct : ["name".toList, "content".toList].Nodup := by decide
  refine Json.spells_object
    [("name".toList, snippet.name), ("content".toList, snippet.content)]
    Prod.fst (fun member => Json.writeString member.2) (fun member => .text member.2) 2 distinct ?_
  exact List.forall_mem_cons.mpr ⟨Json.spells_string depth whole.1,
    List.forall_mem_singleton.mpr (Json.spells_string depth whole.2)⟩

/-- The object that the file of a library denotes. -/
def object (l : Library) : WideFields :=
  Kind.all.map fun kind => (kind.name.wide, .seq ((l.entries kind).map Snippet.value))

/-- Three levels of brackets are all that a library is written with. -/
theorem spells_write (room : Room) {l : Library} (whole : l.Whole) :
    Spells (readValue room.nesting) l.write.replaced (.map l.object) := by
  obtain ⟨depth, deep⟩ := Nat.exists_eq_add_of_le' room.enough
  rw [deep]
  exact Json.spells_object Kind.all Kind.name
    (fun kind => Json.writeBlock '[' ']' 1 ((l.entries kind).map Snippet.write))
    (fun kind => .seq ((l.entries kind).map Snippet.value)) 0 (by decide)
    fun kind _ => Json.spells_array (l.entries kind) Snippet.write Snippet.value 1
      fun snippet member => Snippet.spells_write (whole kind snippet member) _

theorem whole_write (l : Library) : l.write.Whole ↔ l.Whole := by
  have snippet (s : Snippet) : s.write.Whole ↔ s.Whole := by
    simp [Snippet.write, Json.whole_writeBlock, Json.whole_writeMember, Json.whole_writeString,
      Snippet.Whole]
  simp [write, Json.whole_writeBlock, Json.whole_writeMember, snippet, mem_all, Whole]

theorem readSnippets_value (kind : Kind) (snippets : List Snippet) :
    readSnippets kind (snippets.map Snippet.value) = .ok snippets := by
  induction snippets with
  | nil => rfl
  | cons snippet snippets ih =>
    rw [List.map_cons, readSnippets, Snippet.ofValue?_value, ih]
    rfl

theorem readKind_object (l : Library) (kind : Kind) :
    readKind l.object kind = .ok (l.entries kind) := by
  have found : l.object.get? kind.name.wide = some (.seq ((l.entries kind).map Snippet.value)) := by
    cases kind <;> rfl
  rw [readKind, found]
  exact readSnippets_value kind (l.entries kind)

end Values

section Load

variable {room : Room} {fs : FileSystem} {path : Path}

theorem Snippet.return_not_mem_write (snippet : Snippet) : '\r' ∉ snippet.write.replaced := by
  refine Json.return_not_mem_writeBlock (by decide) (by decide) 2 fun member listed => ?_
  obtain rfl | rfl := by simpa using listed
  all_goals exact Json.return_not_mem_writeMember _ (Json.return_not_mem_writeString _)

theorem return_not_mem_write (l : Library) : '\r' ∉ l.write.replaced := by
  refine Json.return_not_mem_writeBlock (by decide) (by decide) 0 ?_
  refine List.forall_mem_map.mpr fun kind _ => Json.return_not_mem_writeMember _ ?_
  refine Json.return_not_mem_writeBlock (by decide) (by decide) 1 ?_
  exact List.forall_mem_map.mpr fun snippet _ => snippet.return_not_mem_write

/-- No carriage return is ever written, so the unification of line ends finds nothing to change. -/
theorem readText_of_read {l : Library} (readable : fs.read path = .ok (encode l.write.replaced)) :
    Storage.readText fs path = .ok l.write.replaced := by
  simp only [Storage.readText, readable, Text.Utf8.decode_encode,
    Text.universalNewlines_eq_self (return_not_mem_write l)]

theorem readFile_of_read {l : Library} (whole : l.Whole)
    (readable : fs.read path = .ok (encode l.write.replaced)) :
    readFile room fs path = .ok l.object := by
  have spells := spells_write room whole
  have visible : Text.allBlank l.write.replaced = false := Json.not_allBlank_of_opens spells.opens
  simp [readFile, FileSystem.contains_of_read readable, readText_of_read readable, readObject,
    visible, Json.read_of_spells spells]

theorem readFile_of_read_nil (readable : fs.read path = .ok []) :
    readFile room fs path = .ok [] := by
  have text : Storage.readText fs path = .ok [] := by
    have decoded : Text.Utf8.decode [] = .ok [] := Text.Utf8.decode_encode []
    simp only [Storage.readText, readable, decoded]
    rfl
  simp [readFile, FileSystem.contains_of_read readable, text, readObject, Text.allBlank]

theorem fill_cons {object : WideFields} {kind : Kind} {snippets : List Snippet}
    (readable : readKind object kind = .ok snippets) (kinds : List Kind) (l : Library) :
    fill object (kind :: kinds) l =
      fill object kinds (l.withEntries kind (orDefaults kind snippets)) := by
  rw [fill, readable]
  cases snippets <;> rfl

theorem fill_object (l previous : Library) :
    fill l.object Kind.all previous = (l.seeded, .ok ()) := by
  simp only [Kind.all, fill_cons (readKind_object l _)]
  rfl

theorem load_of_read {l : Library} (whole : l.Whole)
    (readable : fs.read path = .ok (encode l.write.replaced)) (previous : Library) :
    load room fs path previous = (l.seeded, .ok ()) := by
  simp only [load, readFile_of_read whole readable, fill_object]

theorem load_eq_of_isOk {l previous : Library} (taken : (load room fs path previous).1 = l)
    (ended : (load room fs path previous).2.isOk = true) :
    load room fs path previous = (l, .ok ()) := by
  obtain ⟨⟨⟩, done⟩ := Except.isOk_iff.mp ended
  exact Prod.ext taken done

/-- An empty file is the file of a library with nothing in it. -/
theorem load_of_read_nil (readable : fs.read path = .ok []) (previous : Library) :
    load room fs path previous = (seeded empty, .ok ()) := by
  have nothing (kind : Kind) : readKind [] kind = .ok [] := rfl
  simp only [load, readFile_of_read_nil readable, Kind.all, fill_cons (nothing _)]
  rfl

end Load

section Filled

theorem orDefaults_ne_nil (kind : Kind) (snippets : List Snippet) :
    orDefaults kind snippets ≠ [] := by
  cases snippets <;> cases kind <;> simp [orDefaults, defaults]

/-- A kind keeps its snippets while the others are taken over, and none is taken over empty. -/
theorem entries_ne_nil_of_fill {object : WideFields} {kinds : List Kind} {l l' : Library}
    (filled : fill object kinds l = (l', .ok ())) {kind : Kind}
    (reached : kind ∈ kinds ∨ l.entries kind ≠ []) : l'.entries kind ≠ [] := by
  induction kinds generalizing l with
  | nil =>
    obtain ⟨rfl, -⟩ := Prod.mk.inj filled
    simpa using reached
  | cons first kinds ih =>
    cases readable : readKind object first with
    | error p => simp [fill, readable] at filled
    | ok snippets =>
      rw [fill_cons readable] at filled
      refine ih filled ?_
      by_cases same : kind = first
      · subst same
        exact .inr (by rw [entries_withEntries_self]; exact orDefaults_ne_nil kind snippets)
      · rw [entries_withEntries_of_ne l same]
        exact reached.imp_left fun member => (List.mem_cons.mp member).resolve_left same

theorem seeded_eq_self {l : Library} (filled : ∀ kind, l.entries kind ≠ []) : l.seeded = l := by
  have kept (kind : Kind) : orDefaults kind (l.entries kind) = l.entries kind := by
    have nonempty := filled kind
    cases entries : l.entries kind with
    | nil => exact absurd entries nonempty
    | cons snippet snippets => rfl
  obtain ⟨templates, data, styles⟩ := l
  exact congr (congrArg₂ Library.mk (kept .template) (kept .data)) (kept .style)

theorem seeded_of_load {room : Room} {fs : FileSystem} {path : Path} {previous l : Library}
    (loaded : load room fs path previous = (l, .ok ())) : l.seeded = l := by
  refine seeded_eq_self fun kind => ?_
  unfold load at loaded
  split at loaded
  · simp at loaded
  · split at loaded
    · next filled =>
      obtain ⟨rfl, -⟩ := Prod.mk.inj loaded
      exact entries_ne_nil_of_fill filled (.inl (mem_all kind))
    · simp at loaded

end Filled

section Flush

variable {room : Room} {fs fs' : FileSystem} {path : Path} {l : Library}

theorem flush_eq_ok_iff : flush room fs path l = (fs', .ok ()) ↔ l.Whole ∧
    fs.writeWithParents room.directories path (encode l.write.replaced) = (fs', .ok ()) := by
  unfold flush
  by_cases whole : l.Whole
  · rw [WideText.encode_of_whole ((whole_write l).mpr whole)]
    dsimp only [Except.toOption, Option.getD]
    obtain ⟨made, _ | ⟨⟨⟩⟩⟩ :=
      fs.writeWithParents room.directories path (encode l.write.replaced)
    · simp
    · simp [whole]
  · obtain ⟨fault, refused⟩ := WideText.encode_of_not_whole (mt (whole_write l).mp whole)
    rw [refused]
    dsimp only [Except.toOption, Option.getD]
    obtain ⟨made, _ | ⟨⟨⟩⟩⟩ := fs.writeWithParents room.directories path []
    · simp [whole]
    · simp [whole]

/-- The file has been opened for writing when the first half of a surrogate pair is met. -/
theorem flush_of_not_whole (broken : ¬ l.Whole) (writable : fs.Writable path)
    (enough : fs.HasRoom room.directories path) :
    ∃ fs' fault, flush room fs path l = (fs', .error (.unencodable fault)) ∧
      fs'.read path = .ok [] := by
  obtain ⟨fault, refused⟩ := WideText.encode_of_not_whole (mt (whole_write l).mp broken)
  obtain ⟨fs', written⟩ := FileSystem.writeWithParents_of_writable writable enough []
  refine ⟨fs', fault, ?_, FileSystem.read_of_writeWithParents written⟩
  have opened : (Except.error fault : Except _ Text.Utf8.Bytes).toOption.getD [] = [] := rfl
  simp only [flush, refused, opened, written]

end Flush

/-- A library without halves of surrogate pairs can be written wherever no file stands in the way and
the stack has room for the missing directories, and what is loaded afterwards is the library with its
empty kinds filled. Nothing was empty in a library that was loaded, so that one comes back as it is.
A library with halves cannot be written: it leaves an empty file, and only the defaults come back. -/
theorem load_flush (room : Room) (fs : FileSystem) (path : Path) (l : Library) :
    ((∃ fs', flush room fs path l = (fs', .ok ())) ↔
      l.Whole ∧ fs.Writable path ∧ fs.HasRoom room.directories path) ∧
    (∀ fs', flush room fs path l = (fs', .ok ()) →
      ∀ fresh, load room fs' path fresh = (l.seeded, .ok ())) ∧
    (∀ fresh, load room fs path fresh = (l, .ok ()) → (fs.read path).isOk = true → l.Whole →
      ∃ fs', flush room fs path l = (fs', .ok ()) ∧
        ∀ later, load room fs' path later = (l, .ok ())) ∧
    (¬ l.Whole → fs.Writable path → fs.HasRoom room.directories path →
      ∃ fs' fault, flush room fs path l = (fs', .error (.unencodable fault)) ∧
        fs'.read path = .ok [] ∧ ∀ later, load room fs' path later = (seeded empty, .ok ())) := by
  have back : ∀ fs', flush room fs path l = (fs', .ok ()) →
      ∀ fresh, load room fs' path fresh = (l.seeded, .ok ()) := by
    intro fs' flushed
    obtain ⟨whole, written⟩ := flush_eq_ok_iff.mp flushed
    exact load_of_read whole (FileSystem.read_of_writeWithParents written)
  have possible (whole : l.Whole) (writable : fs.Writable path)
      (enough : fs.HasRoom room.directories path) :
      ∃ fs', flush room fs path l = (fs', .ok ()) :=
    (FileSystem.writeWithParents_of_writable writable enough _).imp fun fs' written =>
      flush_eq_ok_iff.mpr ⟨whole, written⟩
  refine ⟨⟨?_, fun ⟨whole, writable, enough⟩ => possible whole writable enough⟩, back,
    fun fresh loaded readable whole => ?_, fun broken writable enough => ?_⟩
  · rintro ⟨fs', flushed⟩
    obtain ⟨whole, written⟩ := flush_eq_ok_iff.mp flushed
    exact ⟨whole, FileSystem.writable_of_writeWithParents written,
      FileSystem.hasRoom_of_writeWithParents written⟩
  · obtain ⟨bytes, read⟩ := Except.isOk_iff.mp readable
    obtain ⟨fs', flushed⟩ := possible whole (FileSystem.writable_of_read read)
      (FileSystem.hasRoom_of_read read room.directories)
    have same := seeded_of_load loaded
    exact ⟨fs', flushed, fun later => by rw [back fs' flushed later, same]⟩
  · obtain ⟨fs', fault, refused, emptied⟩ := flush_of_not_whole broken writable enough
    exact ⟨fs', fault, refused, emptied, load_of_read_nil emptied⟩

/-- A library with two kinds empty is written into a new directory, and one that was edited by hand
is loaded and written again. -/
theorem load_flush_awkward :
    let room : Room := ⟨990, 985, by decide⟩
    let path : Path := ⟨.here, ["saved".toList, "library.json".toList]⟩
    let awkward : List Snippet :=
      [⟨Text.wide ['"', '\\'], Text.wide ['\x00', '😀', '\r', '\n', '\x7f']⟩,
        ⟨Text.wide ['"', '\\'], Text.wide ['\r']⟩]
    let l : Library := ⟨[], [], awkward⟩
    let filled : Library := ⟨defaults .template, defaults .data, awkward⟩
    let edited := "\r\x7b\"style\":[\x7b\"content\":\"\\u0000\\ud83d\\ude00\\r\\n\x7f\",".toList ++
      "\"at\":1,\"name\":\"\\\"\\\\\"\x7d, \x7b\"name\":\"\\u0022\\u005C\",".toList ++
      "\r\"content\":\"\\r\"\x7d]\x7d".toList
    let fs : FileSystem := ⟨[(["library.json".toList], .file (encode edited))]⟩
    let top : Path := ⟨.here, ["library.json".toList]⟩
    (∃ fs', flush room ⟨[]⟩ path l = (fs', .ok ()) ∧
      load room fs' path .empty = (filled, .ok ())) ∧
    load room fs top .empty = (filled, .ok ()) ∧ (fs.read top).isOk = true ∧
      ∃ fs', flush room fs top filled = (fs', .ok ()) ∧
        load room fs' top .empty = (filled, .ok ()) := by
  intro room path awkward l filled edited fs top
  have writable : FileSystem.Writable ⟨[]⟩ path := by
    refine ⟨fun q _ bytes => ?_, by decide, by decide⟩
    unfold FileSystem.get?
    split <;> simp
  have shallow : FileSystem.HasRoom ⟨[]⟩ room.directories path :=
    FileSystem.hasRoom_of_length (by decide)
  have whole : l.Whole := by
    intro kind
    cases kind <;> decide
  have wholeFilled : filled.Whole := by
    intro kind
    cases kind <;> decide +kernel
  obtain ⟨written, flushed⟩ := (load_flush room ⟨[]⟩ path l).1.mpr ⟨whole, writable, shallow⟩
  have loaded : load room fs top .empty = (filled, .ok ()) :=
    load_eq_of_isOk (by decide +kernel) (by decide +kernel)
  have readable : (fs.read top).isOk = true := rfl
  obtain ⟨again, reflushed, reloaded⟩ :=
    (load_flush room fs top filled).2.2.1 .empty loaded readable wholeFilled
  exact ⟨⟨written, flushed, (load_flush room ⟨[]⟩ path l).2.1 written flushed .empty⟩, loaded,
    readable, again, reflushed, reloaded .empty⟩

/-- A file with the escape of half a surrogate pair is loaded, but what was loaded is not written
again: the write fails when the file is empty, and the next load gives the defaults. -/
theorem not_load_flush :
    let room : Room := ⟨990, 985, by decide⟩
    let path : Path := ⟨.here, ["lib.json".toList]⟩
    let document :=
      "\x7b\"template\":[\x7b\"name\":\"x\",\"content\":\"\\ud800\"\x7d]\x7d".toList
    let fs : FileSystem := ⟨[(["lib.json".toList], .file (encode document))]⟩
    let l : Library := ⟨[⟨Text.wide ['x'], [.half 0]⟩], defaults .data, defaults .style⟩
    load room fs path .empty = (l, .ok ()) ∧
      ∃ fs' fault, flush room fs path l = (fs', .error (.unencodable fault)) ∧
        fs'.read path = .ok [] ∧ load room fs' path .empty ≠ (l, .ok ()) := by
  intro room path document fs l
  have loaded : load room fs path .empty = (l, .ok ()) :=
    load_eq_of_isOk (by decide +kernel) (by decide +kernel)
  have broken : ¬ l.Whole := by
    intro whole
    have halved : Snippet.Whole ⟨Text.wide ['x'], [.half 0]⟩ :=
      whole .template _ List.mem_cons_self
    exact absurd halved (by decide)
  have read : fs.read path = .ok (encode document) := rfl
  have enough : fs.HasRoom room.directories path := FileSystem.hasRoom_of_read read _
  obtain ⟨fs', fault, refused, emptied⟩ :=
    flush_of_not_whole broken (FileSystem.writable_of_read read) enough
  refine ⟨loaded, fs', fault, refused, emptied, ?_⟩
  rw [load_of_read_nil emptied]
  intro same
  exact absurd (Prod.mk.inj same).1 (by decide +kernel)

end Folio.Library
