import Folio.Document.Files
import Folio.Proofs.Storage.Frame
import Folio.Proofs.Storage.Naming

/-! Documents that are composed from files and written into one: when that succeeds, what it leaves
in the file, and that nothing else happens to any file. -/
namespace Folio

namespace Storage.Path

/-- A path with another name, refused where there is no name to replace or the new one would not be
a single part. -/
def withName? (p : Path) (name : Text) : Option Path :=
  let parsed := ofText name
  if p.name = [] ∨ name.getLast? = some '/' ∨ parsed.anchor ≠ .here ∨ parsed.parts.length ≠ 1 then
    none
  else some (p.withName name)

theorem withName?_of_isPart {p : Path} {name : Text} (named : p.name ≠ []) (h : IsPart name) :
    p.withName? name = some (p.withName name) := by
  have inside : name.getLast? ≠ some '/' := fun last =>
    h.undivided (List.mem_of_getLast? last)
  simp [withName?, h.ofText, named, inside]

end Storage.Path

namespace Document

open Storage (FileSystem Location Path readText)
open Storage.FileSystem
open Text.Utf8 (decode encode)

section Compose

variable {nesting : Nat} {template data style : Text} {markup : Option Bool} {c : Composition}

theorem ofValue_text_eq_ok_iff {name : Text} {format : Format} :
    Format.ofValue (.text name) = .ok format ↔ Format.ofName? name = some format := by
  simp only [Format.ofValue]
  cases Format.ofName? name <;> simp

theorem compose_eq_ok_iff {name : Text} :
    compose nesting template data style (.text name) markup = .ok c ↔
      ∃ format, Format.ofName? name = some format ∧
        composeAs nesting format template data style markup = c := by
  simp only [← ofValue_text_eq_ok_iff, compose]
  cases Format.ofValue (.text name) <;> simp [Except.map]

theorem extension_composeAs (format : Format) :
    (composeAs nesting format template data style markup).extension = format.extension := by
  unfold composeAs
  dsimp only
  split <;> rfl

theorem slash_not_mem_extension (format : Format) : '/' ∉ format.extension := by
  cases format <;> decide

end Compose

section Read

variable {room : Room} {fs : FileSystem} {r : Request} {c : Composition}

/-- The texts that a request names. A file that is not asked for counts as an empty text. -/
structure Reads (fs : FileSystem) (r : Request) (template data style : Text) : Prop where
  template : readText fs r.template = .ok template
  data : readOptional fs r.data = .ok data
  style : readOptional fs r.style = .ok style

theorem composeFiles_eq_ok_iff : composeFiles room fs r = .ok c ↔
    ∃ template data style, Reads fs r template data style ∧
      compose room.nesting template data style (.text r.format) r.markup = .ok c := by
  simp only [composeFiles, Except.bind_eq_ok_iff]
  constructor
  · rintro ⟨template, hasTemplate, data, hasData, style, hasStyle, made⟩
    refine ⟨template, data, style, ⟨hasTemplate, hasData, hasStyle⟩, ?_⟩
    split at made
    · next c' composed => rw [composed, Except.ok.inj made]
    · cases made
  · rintro ⟨template, data, style, ⟨hasTemplate, hasData, hasStyle⟩, made⟩
    exact ⟨template, hasTemplate, data, hasData, style, hasStyle, by rw [made]⟩

theorem readText_eq_ok_iff {p : Path} {s : Text} : readText fs p = .ok s ↔
    ∃ bytes, fs.read p = .ok bytes ∧ ∃ t, decode bytes = .ok t ∧ t.universalNewlines = s := by
  unfold readText
  cases fs.read p with
  | error e => simp
  | ok bytes => cases decoded : decode bytes <;> simp [decoded]

theorem template_named (composed : composeFiles room fs r = .ok c) : r.template.parts ≠ [] := by
  obtain ⟨template, data, style, reads, -⟩ := composeFiles_eq_ok_iff.mp composed
  obtain ⟨bytes, readable, -⟩ := readText_eq_ok_iff.mp reads.template
  exact parts_ne_nil_of_read readable

theorem slash_not_mem_of_composeFiles (composed : composeFiles room fs r = .ok c) :
    '/' ∉ c.extension := by
  obtain ⟨template, data, style, -, made⟩ := composeFiles_eq_ok_iff.mp composed
  obtain ⟨format, -, rfl⟩ := compose_eq_ok_iff.mp made
  rw [extension_composeAs]
  exact slash_not_mem_extension format

end Read

section Write

variable {room : Room} {fs fs' : FileSystem} {p : Path} {content : Text} {f : Failure}

theorem files_writeOutput (room : Room) (fs : FileSystem) (content : Text) (p : Path) :
    (writeOutput room fs content p).1 =
      (fs.writeWithParents room.directories p (encode content)).1 := by
  unfold writeOutput
  split
  all_goals
    next outcome => rw [outcome]

theorem writeOutput_eq_error_iff : writeOutput room fs content p = (fs', .error f) ↔
    ¬ fs.HasRoom room.directories p ∧ fs' = fs ∧ f = .exhausted := by
  have exhausted : fs.writeWithParents room.directories p (encode content) =
      (fs', .error .exhausted) ↔ ¬ fs.HasRoom room.directories p ∧ fs' = fs :=
    writeWithParents_eq_exhausted_iff
  rw [← and_assoc, ← exhausted]
  unfold writeOutput
  split
  all_goals
    next outcome => simp [outcome, eq_comm]

/-- An output is written exactly if the directories on its way can be made, with the room that there
is for that, and no directory is in its place; then it is read there. Nothing else happens to a file,
and a failure changes none. Only a lack of room is not told but passed on, and then nothing at all
has happened. -/
structure Written (room : Room) (fs : FileSystem) (content : Text) (p : Path)
    (done : FileSystem × Except Failure Bool) : Prop where
  succeeds_iff : done.2 = .ok true ↔ fs.Writable p ∧ fs.HasRoom room.directories p
  escapes_iff : done.2.isOk = false ↔ ¬ fs.HasRoom room.directories p
  escaped : ∀ f, done.2 = .error f → f = .exhausted ∧ done.1 = fs
  read : done.2 = .ok true → done.1.read p = .ok (encode content)
  elsewhere : ∀ l, l ≠ destination p → Undisturbed l fs done.1
  failed : done.2 ≠ .ok true → ∀ l, Undisturbed l fs done.1

theorem written_of_ok (written : fs.writeWithParents room.directories p (encode content) =
    (fs', .ok ())) : Written room fs content p (fs', .ok true) where
  succeeds_iff := iff_of_true rfl
    ⟨writable_of_writeWithParents written, hasRoom_of_writeWithParents written⟩
  escapes_iff := iff_of_false (fun escapes => nomatch escapes) fun short =>
    short (hasRoom_of_writeWithParents written)
  escaped := nofun
  read _ := read_of_writeWithParents written
  elsewhere l other := by
    have undisturbed : Undisturbed l fs
        (fs.writeWithParents room.directories p (encode content)).1 :=
      undisturbed_writeWithParents other.symm (encode content)
    rwa [written] at undisturbed
  failed refused := absurd rfl refused

theorem written_of_refused {e : Storage.FileError}
    (refused : fs.writeWithParents room.directories p (encode content) =
      (fs', .error (.refused e))) : Written room fs content p (fs', .ok false) := by
  have enough : fs.HasRoom room.directories p := by
    by_contra short
    cases refused.symm.trans (writeWithParents_eq_exhausted_iff.mpr ⟨short, rfl⟩)
  have kept (l : Location) : Undisturbed l fs fs' :=
    (widened_of_writeWithParents_error refused).undisturbed l
  refine ⟨iff_of_false nofun fun possible => ?_, iff_of_false nofun (not_not_intro enough), nofun,
    nofun, fun l _ => kept l, fun _ => kept⟩
  obtain ⟨_, written⟩ := writeWithParents_of_writable possible.1 enough (encode content)
  cases refused.symm.trans written

theorem written_of_exhausted (short : ¬ fs.HasRoom room.directories p) :
    Written room fs content p (fs, .error .exhausted) where
  succeeds_iff := iff_of_false nofun fun possible => short possible.2
  escapes_iff := iff_of_true rfl short
  escaped _ same := ⟨(Except.error.inj same).symm, rfl⟩
  read := nofun
  elsewhere l _ := Undisturbed.refl l fs
  failed _ l := Undisturbed.refl l fs

theorem written_writeOutput (room : Room) (fs : FileSystem) (content : Text) (p : Path) :
    Written room fs content p (writeOutput room fs content p) := by
  unfold writeOutput
  split
  · next written => exact written_of_ok written
  · next refused => exact written_of_refused refused
  · next exhausted =>
    obtain ⟨short, rfl⟩ := writeWithParents_eq_exhausted_iff.mp exhausted
    exact written_of_exhausted short

end Write

/-- Why no document comes of an export. -/
inductive Trouble
  | composing (f : Failure)
  | naming
  | writing (o : Storage.Obstacle)

/-- The name of a document beside its template. -/
def renderedName (template : Path) (extension : Text) : Text :=
  template.stem ++ ".rendered.".toList ++ extension

/-- The steps of an export, with the trouble that each of them can end in. -/
def exportSteps (room : Room) (fs : FileSystem) (r : Request) (output : Option Path) :
    FileSystem × Except Trouble Unit :=
  match composeFiles room fs r with
  | .error f => (fs, .error (.composing f))
  | .ok c =>
    let beside := r.template.withName? (renderedName r.template c.extension)
    match output <|> beside with
    | none => (fs, .error .naming)
    | some target =>
      match fs.writeWithParents room.directories target (encode c.exported) with
      | (fs, .ok ()) => (fs, .ok ())
      | (fs, .error o) => (fs, .error (.writing o))

/-- What a caller gets of an export. Trouble with composing and refusals of the file system are
caught and told. A lack of room is passed on; so is a document that no name can be given to, of which
nothing more is said here. -/
def answer : Except Trouble Unit → Option (Except Failure Bool)
  | .ok () => some (.ok true)
  | .error (.composing _) => some (.ok false)
  | .error (.writing (.refused _)) => some (.ok false)
  | .error (.writing .exhausted) => some (.error .exhausted)
  | .error .naming => none

/-- Where a document goes that was composed on a request. -/
def target (r : Request) (output : Option Path) (c : Composition) : Path :=
  output.getD (besideTemplate r.template c.extension)

/-- A path in the directory of a template, named after its stem and an extension, that leads to
another place than the template. -/
structure IsBeside (template : Path) (extension : Text) (p : Path) : Prop where
  parent : p.parent = template.parent
  name : ∃ stem, Path.IsStem template.name stem ∧
    p.name = stem ++ ".rendered.".toList ++ extension
  apart : destination p ≠ destination template

section Beside

variable {template : Path} {extension : Text}

theorem isBeside_besideTemplate (named : template.parts ≠ []) (extension : Text) :
    IsBeside template extension (besideTemplate template extension) := by
  have stem := template.isStem_stem
  refine ⟨Path.parent_withName _ _, ⟨_, stem, Path.name_withName _ _⟩, ?_⟩
  have shape : template.stem ++ ".rendered.".toList ++ extension =
      template.stem ++ '.' :: ("rendered.".toList ++ extension) := by
    rw [List.append_assoc]
    rfl
  refine destination_withName_ne named (fun upwards => ?_) ?_
  · have lengths := congrArg List.length upwards
    simp [FileSystem.upwards] at lengths
    omega
  · rw [shape]
    exact stem.append_ne (by simp)

theorem isPart_renderedName (spelled : Path.IsPart template.name) (undivided : '/' ∉ extension) :
    Path.IsPart (renderedName template extension) where
  nonempty := by simp [renderedName]
  proper := by
    intro same
    have lengths := congrArg List.length same
    simp [renderedName] at lengths
    omega
  undivided := by
    have stem : '/' ∉ template.stem := fun member =>
      spelled.undivided (template.isStem_stem.isPrefix.subset member)
    simp [renderedName, stem, undivided]

end Beside

section Export

variable {room : Room} {fs : FileSystem} {r : Request} {output : Option Path} {c : Composition}

theorem exportFiles_of_error {f : Failure} (failed : composeFiles room fs r = .error f) :
    exportFiles room fs r output = (fs, .ok false) := by
  rw [exportFiles, failed]

theorem exportFiles_of_ok (composed : composeFiles room fs r = .ok c) :
    exportFiles room fs r output = writeOutput room fs c.exported (target r output c) := by
  rw [exportFiles, composed]
  rfl

/-- The template was read, so it has a name, and that can be replaced. -/
theorem target_eq (spelled : ∀ part ∈ r.template.parts, Path.IsPart part)
    (composed : composeFiles room fs r = .ok c) :
    (output <|> r.template.withName? (renderedName r.template c.extension)) =
      some (target r output c) := by
  cases output with
  | some p => rfl
  | none =>
    have name := spelled _ (Path.name_mem_parts (template_named composed))
    exact Path.withName?_of_isPart name.nonempty
      (isPart_renderedName name (slash_not_mem_of_composeFiles composed))

theorem answer_exportSteps (spelled : ∀ part ∈ r.template.parts, Path.IsPart part)
    (output : Option Path) :
    (exportSteps room fs r output).1 = (exportFiles room fs r output).1 ∧
      answer (exportSteps room fs r output).2 = some (exportFiles room fs r output).2 := by
  cases composed : composeFiles room fs r with
  | error f => simp [exportSteps, exportFiles_of_error composed, composed, answer]
  | ok c =>
    rw [exportFiles_of_ok composed]
    simp only [exportSteps, composed, target_eq spelled composed, writeOutput]
    obtain ⟨fs', o | ⟨⟨⟩⟩⟩ :=
      fs.writeWithParents room.directories (target r output c) (encode c.exported)
    · cases o <;> exact ⟨rfl, rfl⟩
    · exact ⟨rfl, rfl⟩

/-- What there is to say about an export. It answers, unless the document is composed and the stack
has no room to make the directories above it: then nothing has happened. It succeeds exactly if the
document can be composed and written, and then the document is in its file and no other file has
changed; otherwise no file has changed. A place beside the template is found without loss of the
template. -/
structure Accounted (room : Room) (fs : FileSystem) (r : Request) (output : Option Path)
    (done : FileSystem × Except Failure Bool) : Prop where
  answers : (exportSteps room fs r output).1 = done.1 ∧
    answer (exportSteps room fs r output).2 = some done.2
  escapes_iff : done.2.isOk = false ↔ ∃ c, composeFiles room fs r = .ok c ∧
    ¬ fs.HasRoom room.directories (target r output c)
  escaped : ∀ f, done.2 = .error f → f = .exhausted ∧ done.1 = fs
  succeeds_iff : done.2 = .ok true ↔ ∃ c, composeFiles room fs r = .ok c ∧
    fs.Writable (target r output c) ∧ fs.HasRoom room.directories (target r output c)
  written : done.2 = .ok true → ∃ template data style c, Reads fs r template data style ∧
    compose room.nesting template data style (.text r.format) r.markup = .ok c ∧
    done.1.read (target r output c) = .ok (encode c.exported) ∧
    ∀ l, l ≠ destination (target r output c) → Undisturbed l fs done.1
  failed : done.2 ≠ .ok true → ∀ l, Undisturbed l fs done.1
  beside : ∀ c, composeFiles room fs r = .ok c → output = none →
    IsBeside r.template c.extension (target r output c) ∧
      done.1.read r.template = fs.read r.template

theorem accounted_of_error {f : Failure} (failed : composeFiles room fs r = .error f)
    (answers : (exportSteps room fs r output).1 = fs ∧
      answer (exportSteps room fs r output).2 = some (.ok false)) :
    Accounted room fs r output (fs, .ok false) where
  answers := answers
  escapes_iff := by simp [failed, Except.isOk, Except.toBool]
  escaped := nofun
  succeeds_iff := by simp [failed]
  written := nofun
  failed _ l := Undisturbed.refl l fs
  beside := by simp [failed]

theorem accounted_of_ok {done : FileSystem × Except Failure Bool}
    (composed : composeFiles room fs r = .ok c)
    (answers : (exportSteps room fs r output).1 = done.1 ∧
      answer (exportSteps room fs r output).2 = some done.2)
    (written : Written room fs c.exported (target r output c) done) :
    Accounted room fs r output done where
  answers := answers
  escapes_iff := by simp [written.escapes_iff, composed]
  escaped := written.escaped
  succeeds_iff := by simp [written.succeeds_iff, composed]
  written succeeds := by
    obtain ⟨template, data, style, reads, made⟩ := composeFiles_eq_ok_iff.mp composed
    exact ⟨template, data, style, c, reads, made, written.read succeeds, written.elsewhere⟩
  failed := written.failed
  beside c' composed' unnamed := by
    obtain rfl : c = c' := Except.ok.inj (composed.symm.trans composed')
    subst unnamed
    have beside := isBeside_besideTemplate (template_named composed) c.extension
    refine ⟨beside, ?_⟩
    -- the template is one of the files that have not changed
    obtain ⟨template, data, style, reads, -⟩ := composeFiles_eq_ok_iff.mp composed
    obtain ⟨bytes, readable, -⟩ := readText_eq_ok_iff.mp reads.template
    have undisturbed := written.elsewhere (destination r.template) beside.apart.symm
    rw [readable]
    exact (undisturbed.read_iff (not_hidden_of_read readable) bytes).mpr readable

theorem accounted_exportFiles (spelled : ∀ part ∈ r.template.parts, Path.IsPart part)
    (output : Option Path) : Accounted room fs r output (exportFiles room fs r output) := by
  have answers : (exportSteps room fs r output).1 = (exportFiles room fs r output).1 ∧ _ :=
    answer_exportSteps spelled output
  cases composed : composeFiles room fs r with
  | error f =>
    rw [exportFiles_of_error composed] at answers ⊢
    exact accounted_of_error composed answers
  | ok c =>
    rw [exportFiles_of_ok composed] at answers ⊢
    exact accounted_of_ok composed answers (written_writeOutput room fs c.exported _)

/-- Whatever the files, the paths, the format and the name of the template. -/
theorem export_accounted (room : Room) (fs : FileSystem) (template : Text)
    (data style : Option Path) (format : Text) (markup : Option Bool) (output : Option Path) :
    let r : Request := ⟨Path.ofText template, data, style, format, markup⟩
    Accounted room fs r output (exportFiles room fs r output) := by
  intro r
  have spelled : ∀ part ∈ r.template.parts, Path.IsPart part := fun _ =>
    Path.isPart_of_mem_ofText
  exact accounted_exportFiles spelled output

/-- A template whose name is that of a rendered document, in a format that there is and in one that
there is not. -/
theorem export_accounted_rendered :
    let room : Room := ⟨990, 985, by decide⟩
    let fs : FileSystem := ⟨[(["x.rendered.html".toList], .file (encode ['h', 'i']))]⟩
    let name := "x.rendered.html".toList
    let r : Request := ⟨Path.ofText name, none, none, "markdown".toList, none⟩
    let unknown : Request := ⟨Path.ofText name, none, none, "doc".toList, none⟩
    (Accounted room fs r none (exportFiles room fs r none) ∧
      (exportFiles room fs r none).2.toOption = some true ∧
      (exportFiles room fs r none).1.read (Path.ofText "x.rendered.rendered.md".toList) =
        .ok (encode ['h', 'i'])) ∧
      Accounted room fs unknown none (exportFiles room fs unknown none) ∧
      (exportFiles room fs unknown none).2.toOption = some false := by
  intro room fs name r unknown
  exact ⟨⟨export_accounted room fs name none none _ none none, by decide +kernel,
    by decide +kernel⟩, export_accounted room fs name none none _ none none, by decide +kernel⟩

/-- An export into the innermost of 1200 directories that are all missing, where the stack has room
to make 985: the failure reaches the caller. -/
theorem not_export_answers :
    let room : Room := ⟨990, 985, by decide⟩
    let fs : FileSystem := ⟨[(["t.tpl".toList], .file (encode ['x']))]⟩
    let r : Request := ⟨Path.ofText "t.tpl".toList, none, none, "txt".toList, none⟩
    let output := Path.ofText ((List.replicate 1200 ['a', '/']).flatten ++ "o.txt".toList)
    (exportFiles room fs r (some output)).2 = .error .exhausted := by
  intro room fs r output
  have above : output.parent.parts.reverse = List.replicate 1199 ['a'] ++ [['a']] := by
    decide +kernel
  have short : ¬ fs.HasRoom room.directories output := by
    rw [FileSystem.HasRoom, above, pending_of_missing (by decide), List.length_replicate]
    decide
  have composed : (composeFiles room fs r).isOk = true := by decide +kernel
  obtain ⟨c, document⟩ := Except.isOk_iff.mp composed
  rw [exportFiles_of_ok document]
  exact congrArg Prod.snd (writeOutput_eq_error_iff.mpr ⟨short, rfl, rfl⟩)

/-- Names without a dot, with one at either end, with several, and one that was rendered before. -/
example : ["d/t", ".t", "t.", "a.b.c", "x.rendered.html"].map (fun s =>
      (besideTemplate (Path.ofText s.toList) "md".toList).toText) =
    ["d/t.rendered.md", ".t.rendered.md", "t..rendered.md", "a.b.rendered.md",
      "x.rendered.rendered.md"].map String.toList := by decide +kernel

end Export

end Document

end Folio
