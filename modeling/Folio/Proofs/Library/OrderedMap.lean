import Folio.Library.Basic
import Folio.Proofs.Text.Wide
import Mathlib.Data.List.Nodup

/-! A library as a map from names to contents for each kind, kept in the order of the first
additions, under any run of operations. -/
namespace Folio.Library

inductive Operation
  | save (kind : Kind) (name content : WideText)
  | delete (kind : Kind) (name : WideText)
  | get (kind : Kind) (name : WideText)
  | list (kind : Kind)

inductive Answer
  | saved (snippet : Snippet)
  | deleted
  | found (snippet : Snippet)
  | listed (snippets : List Snippet)

/-- Carries out an operation. A refused one leaves the library as it is. -/
def perform (l : Library) : Operation → Library × Except Problem Answer
  | .save kind name content =>
    match l.save kind name content with
    | .ok (l, snippet) => (l, .ok (.saved snippet))
    | .error p => (l, .error p)
  | .delete kind name =>
    match l.delete kind name with
    | .ok l => (l, .ok .deleted)
    | .error p => (l, .error p)
  | .get kind name => (l, (l.get kind name).map .found)
  | .list kind => (l, .ok (.listed (l.entries kind)))

def run (l : Library) (ops : List Operation) : Library :=
  ops.foldl (fun l op => (l.perform op).1) l

/-- The first snippet of a name among others, with those before and after it. -/
structure First (name : WideText) (snippets before : List Snippet) (s : Snippet)
    (after : List Snippet) : Prop where
  split : snippets = before ++ s :: after
  called : s.name = name
  earlier : ∀ t ∈ before, t.name ≠ name

def Absent (name : WideText) (snippets : List Snippet) : Prop := ∀ s ∈ snippets, s.name ≠ name

/-- What an operation on an ordered map does and answers. -/
inductive Effect (l : Library) : Operation → Library → Except Problem Answer → Prop
  | replaces {kind : Kind} {name content m : WideText} {before after : List Snippet} {old : Snippet}
      (trimmed : name.strip = m) (nonblank : m ≠ [])
      (first : First m (l.entries kind) before old after) :
      Effect l (.save kind name content) (l.withEntries kind (before ++ ⟨m, content⟩ :: after))
        (.ok (.saved ⟨m, content⟩))
  | appends {kind : Kind} {name content m : WideText} (trimmed : name.strip = m) (nonblank : m ≠ [])
      (new : Absent m (l.entries kind)) :
      Effect l (.save kind name content) (l.withEntries kind (l.entries kind ++ [⟨m, content⟩]))
        (.ok (.saved ⟨m, content⟩))
  | blank {kind : Kind} {name content : WideText} (trimmed : name.strip = []) :
      Effect l (.save kind name content) l (.error (.nameRequired kind))
  | deletes {kind : Kind} {name : WideText} {before after : List Snippet} {old : Snippet}
      (first : First name (l.entries kind) before old after) :
      Effect l (.delete kind name) (l.withEntries kind (before ++ after)) (.ok .deleted)
  | unknown {kind : Kind} {name : WideText} (absent : Absent name (l.entries kind)) :
      Effect l (.delete kind name) l
        (.error (.unknownName kind name ((l.entries kind).map Snippet.name)))
  | finds {kind : Kind} {name : WideText} {before after : List Snippet} {s : Snippet}
      (first : First name (l.entries kind) before s after) :
      Effect l (.get kind name) l (.ok (.found s))
  | misses {kind : Kind} {name : WideText} (absent : Absent name (l.entries kind)) :
      Effect l (.get kind name) l
        (.error (.unknownName kind name ((l.entries kind).map Snippet.name)))
  | lists {kind : Kind} : Effect l (.list kind) l (.ok (.listed (l.entries kind)))

section Step

variable {l : Library} {kind : Kind} {name content : WideText} {snippets before after : List Snippet}
  {s : Snippet}

theorem absent_or_first (name : WideText) (snippets : List Snippet) :
    Absent name snippets ∨ ∃ before s after, First name snippets before s after := by
  induction snippets with
  | nil => exact .inl (by simp [Absent])
  | cons s snippets ih =>
    by_cases called : s.name = name
    · exact .inr ⟨[], s, snippets, rfl, called, by simp⟩
    · rcases ih with absent | ⟨before, t, after, first⟩
      · exact .inl (List.forall_mem_cons.mpr ⟨called, absent⟩)
      · refine .inr ⟨s :: before, t, after, ?_, first.called, ?_⟩
        · rw [first.split, List.cons_append]
        · exact List.forall_mem_cons.mpr ⟨called, first.earlier⟩

theorem find?_of_absent (absent : Absent name snippets) :
    snippets.find? (fun s => s.name = name) = none :=
  List.find?_eq_none.mpr fun s member => by simpa using absent s member

theorem First.find? (first : First name snippets before s after) :
    snippets.find? (fun s => s.name = name) = some s := by
  refine List.find?_eq_some_iff_append.mpr ⟨by simpa using first.called, before, after, first.split,
    fun t member => by simpa using first.earlier t member⟩

theorem First.eraseP (first : First name snippets before s after) :
    snippets.eraseP (fun s => s.name = name) = before ++ after := by
  rw [first.split, List.eraseP_append_right _ fun t member => by simpa using first.earlier t member,
    List.eraseP_cons_of_pos (by simpa using first.called)]

theorem place_of_absent (absent : Absent name snippets) (content : WideText) :
    place ⟨name, content⟩ snippets = snippets ++ [⟨name, content⟩] := by
  induction snippets with
  | nil => rfl
  | cons s snippets ih =>
    obtain ⟨other, absent⟩ := List.forall_mem_cons.mp absent
    rw [place, if_neg other, ih absent, List.cons_append]

theorem First.place (first : First name snippets before s after) (content : WideText) :
    Library.place ⟨name, content⟩ snippets = before ++ ⟨name, content⟩ :: after := by
  obtain ⟨rfl, called, earlier⟩ := first
  induction before with
  | nil => rw [List.nil_append, Library.place, if_pos called, List.nil_append]
  | cons t before ih =>
    obtain ⟨other, earlier⟩ := List.forall_mem_cons.mp earlier
    rw [List.cons_append, Library.place, if_neg other, ih earlier, List.cons_append]

theorem get_of_find?_none
    (missing : (l.entries kind).find? (fun s => s.name = name) = none) :
    l.get kind name = .error (.unknownName kind name ((l.entries kind).map Snippet.name)) := by
  rw [get, missing]

theorem get_of_absent (absent : Absent name (l.entries kind)) :
    l.get kind name = .error (.unknownName kind name ((l.entries kind).map Snippet.name)) :=
  get_of_find?_none (find?_of_absent absent)

theorem get_eq_ok_iff :
    l.get kind name = .ok s ↔ (l.entries kind).find? (fun s => s.name = name) = some s := by
  rw [get]
  split
  · rename_i found
    simp [found]
  · rename_i missing
    simp [missing]

theorem First.get (first : First name (l.entries kind) before s after) :
    l.get kind name = .ok s :=
  get_eq_ok_iff.mpr first.find?

theorem save_of_nonblank (nonblank : name.strip ≠ []) : l.save kind name content =
    .ok (l.withEntries kind (Library.place ⟨name.strip, content⟩ (l.entries kind)),
      ⟨name.strip, content⟩) := by
  unfold save
  split
  · rename_i blank
    exact absurd blank nonblank
  · rfl

theorem perform_of_effect {op : Operation} {l' : Library} {outcome : Except Problem Answer}
    (effect : Effect l op l' outcome) : l.perform op = (l', outcome) := by
  cases effect with
  | replaces trimmed nonblank first =>
    subst trimmed
    simp only [perform, save_of_nonblank nonblank, first.place]
  | appends trimmed nonblank new =>
    subst trimmed
    simp only [perform, save_of_nonblank nonblank, place_of_absent new]
  | blank trimmed => simp only [perform, save, trimmed]
  | deletes first => simp only [perform, delete, first.get, first.eraseP]
  | unknown absent => simp only [perform, delete, get_of_absent absent]
  | finds first =>
    rw [perform, first.get]
    rfl
  | misses absent =>
    rw [perform, get_of_absent absent]
    rfl
  | lists => rfl

theorem exists_effect (l : Library) (op : Operation) : ∃ l' outcome, Effect l op l' outcome := by
  cases op with
  | save kind name content =>
    by_cases blank : name.strip = []
    · exact ⟨_, _, .blank blank⟩
    · rcases absent_or_first name.strip (l.entries kind) with absent | ⟨before, s, after, first⟩
      · exact ⟨_, _, .appends rfl blank absent⟩
      · exact ⟨_, _, .replaces rfl blank first⟩
  | delete kind name =>
    rcases absent_or_first name (l.entries kind) with absent | ⟨before, s, after, first⟩
    · exact ⟨_, _, .unknown absent⟩
    · exact ⟨_, _, .deletes first⟩
  | get kind name =>
    rcases absent_or_first name (l.entries kind) with absent | ⟨before, s, after, first⟩
    · exact ⟨_, _, .misses absent⟩
    · exact ⟨_, _, .finds first⟩
  | list kind => exact ⟨_, _, .lists⟩

theorem perform_eq_iff {op : Operation} {l' : Library} {outcome : Except Problem Answer} :
    l.perform op = (l', outcome) ↔ Effect l op l' outcome := by
  constructor
  · intro performed
    obtain ⟨l'', outcome', effect⟩ := exists_effect l op
    obtain ⟨rfl, rfl⟩ := Prod.mk.inj ((perform_of_effect effect).symm.trans performed)
    exact effect
  · exact perform_of_effect

end Step

/-- No two snippets of a kind have the same name. -/
def Distinct (l : Library) : Prop := ∀ kind, ((l.entries kind).map Snippet.name).Nodup

namespace Operation

def kind : Operation → Kind
  | .save kind _ _ | .delete kind _ | .get kind _ | .list kind => kind

/-- The operation is a save that succeeds with this name and content. -/
def Stores (kind : Kind) (name content : WideText) (op : Operation) : Prop :=
  ∃ spelled, op = .save kind spelled content ∧ spelled.strip = name ∧ name ≠ []

def Touches (kind : Kind) (name : WideText) (op : Operation) : Prop :=
  (∃ content, op.Stores kind name content) ∨ op = .delete kind name

end Operation

/-- What a step makes of the snippets of one kind. -/
inductive Change (op : Operation) (kind : Kind) (snippets : List Snippet) : List Snippet → Prop
  | none : Change op kind snippets snippets
  | replaces {name content : WideText} {before after : List Snippet} {old : Snippet}
      (stores : op.Stores kind name content) (first : First name snippets before old after) :
      Change op kind snippets (before ++ ⟨name, content⟩ :: after)
  | appends {name content : WideText} (stores : op.Stores kind name content)
      (new : Absent name snippets) : Change op kind snippets (snippets ++ [⟨name, content⟩])
  | deletes {name : WideText} {before after : List Snippet} {old : Snippet}
      (deletes : op = .delete kind name) (first : First name snippets before old after) :
      Change op kind snippets (before ++ after)

section Change

variable {op : Operation} {kind : Kind} {name content : WideText}
  {snippets snippets' before after : List Snippet} {s : Snippet}

theorem Change.distinct (change : Change op kind snippets snippets')
    (distinct : (snippets.map Snippet.name).Nodup) : (snippets'.map Snippet.name).Nodup := by
  cases change with
  | none => exact distinct
  | replaces _ first =>
    rw [first.split, List.map_append, List.map_cons, first.called] at distinct
    rwa [List.map_append, List.map_cons]
  | @appends name _ _ new =>
    have fresh : name ∉ snippets.map Snippet.name := by
      intro member
      obtain ⟨s, member, called⟩ := List.mem_map.mp member
      exact new s member called
    rw [List.map_append, List.map_singleton]
    exact List.nodup_append_comm.mp (List.nodup_cons.mpr ⟨fresh, distinct⟩)
  | deletes _ first =>
    rw [first.split] at distinct
    exact distinct.sublist (((List.sublist_cons_self _ _).append_left _).map _)

theorem Change.mem (change : Change op kind snippets snippets') (member : s ∈ snippets') :
    s ∈ snippets ∨ op.Stores kind s.name s.content := by
  cases change with
  | none => exact .inl member
  | replaces stores first =>
    rw [List.mem_append, List.mem_cons] at member
    rw [first.split, List.mem_append, List.mem_cons]
    rcases member with member | rfl | member
    · exact .inl (.inl member)
    · exact .inr stores
    · exact .inl (.inr (.inr member))
  | appends stores =>
    rw [List.mem_append, List.mem_singleton] at member
    rcases member with member | rfl
    · exact .inl member
    · exact .inr stores
  | deletes _ first =>
    rw [List.mem_append] at member
    rw [first.split, List.mem_append, List.mem_cons]
    rcases member with member | member
    · exact .inl (.inl member)
    · exact .inl (.inr (.inr member))

theorem find?_around (other : s.name ≠ name) (before after : List Snippet) :
    (before ++ s :: after).find? (fun s => s.name = name) =
      (before ++ after).find? (fun s => s.name = name) := by
  simp [List.find?_append, other]

theorem Change.find?_of_untouched (change : Change op kind snippets snippets')
    (untouched : ¬ op.Touches kind name) :
    snippets'.find? (fun s => s.name = name) = snippets.find? (fun s => s.name = name) := by
  have stored {other content : WideText} (stores : op.Stores kind other content) : other ≠ name := by
    rintro rfl
    exact untouched (.inl ⟨content, stores⟩)
  cases change with
  | none => rfl
  | replaces stores first =>
    rw [first.split, find?_around (stored stores),
      find?_around (first.called.trans_ne (stored stores))]
  | appends stores => rw [find?_around (stored stores), List.append_nil]
  | @deletes other _ _ _ deletes first =>
    have different : other ≠ name := by
      rintro rfl
      exact untouched (.inr deletes)
    rw [first.split, find?_around (first.called.trans_ne different)]

end Change

section Effects

variable {l l' : Library} {op : Operation} {outcome : Except Problem Answer} {kind : Kind}
  {name content : WideText} {s : Snippet}

theorem Effect.entries_of_ne (effect : Effect l op l' outcome) (other : kind ≠ op.kind) :
    l'.entries kind = l.entries kind := by
  cases effect with
  | replaces => exact entries_withEntries_of_ne l other _
  | appends => exact entries_withEntries_of_ne l other _
  | deletes => exact entries_withEntries_of_ne l other _
  | _ => rfl

theorem Effect.change (effect : Effect l op l' outcome) (kind : Kind) :
    Change op kind (l.entries kind) (l'.entries kind) := by
  by_cases same : kind = op.kind
  · subst same
    cases effect with
    | replaces trimmed nonblank first =>
      simp only [entries_withEntries_self, Operation.kind]
      exact .replaces ⟨_, rfl, trimmed, nonblank⟩ first
    | appends trimmed nonblank new =>
      simp only [entries_withEntries_self, Operation.kind]
      exact .appends ⟨_, rfl, trimmed, nonblank⟩ new
    | deletes first =>
      simp only [entries_withEntries_self, Operation.kind]
      exact .deletes rfl first
    | _ => exact .none
  · rw [effect.entries_of_ne same]
    exact .none

theorem Effect.get_of_stores (effect : Effect l op l' outcome)
    (stores : op.Stores kind name content) : l'.get kind name = .ok ⟨name, content⟩ := by
  obtain ⟨spelled, rfl, trimmed, nonblank⟩ := stores
  cases effect with
  | replaces trimmed' _ first =>
    obtain rfl := trimmed'.symm.trans trimmed
    exact First.get ⟨entries_withEntries_self l kind _, rfl, first.earlier⟩
  | appends trimmed' _ new =>
    obtain rfl := trimmed'.symm.trans trimmed
    exact First.get ⟨entries_withEntries_self l kind _, rfl, new⟩
  | blank trimmed' => exact absurd (trimmed.symm.trans trimmed') nonblank

theorem Effect.absent_of_delete (effect : Effect l (.delete kind name) l' outcome)
    (distinct : l.Distinct) : Absent name (l'.entries kind) := by
  cases effect with
  | deletes first =>
    have names := distinct kind
    rw [first.split, List.map_append, List.map_cons, List.nodup_middle, first.called,
      ← List.map_append, List.nodup_cons] at names
    rw [entries_withEntries_self]
    exact fun s member called => names.1 (List.mem_map.mpr ⟨s, member, called⟩)
  | unknown absent => exact absent

/-- Refusals are mistakes of the user. -/
theorem Effect.kind_of_error {p : Problem} (effect : Effect l op l' (.error p))
    (path : Storage.Path) : (p.report path).kind = .userInput := by
  cases effect with
  | _ => rfl

/-- The first snippet of a name is also the first of its value. -/
theorem First.erase {snippets before after : List Snippet}
    (first : First name snippets before s after) : snippets.erase s = before ++ after := by
  have other : s ∉ before := fun member => first.earlier s member first.called
  rw [first.split, List.erase_append_right _ other, List.erase_cons_head]

theorem delete_eq_erase (found : l.get kind name = .ok s) :
    l.delete kind name = .ok (l.withEntries kind ((l.entries kind).erase s)) := by
  rcases absent_or_first name (l.entries kind) with absent | ⟨before, t, after, first⟩
  · rw [get_of_absent absent] at found
    cases found
  · rw [first.get] at found
    cases found
    rw [delete, first.get, first.eraseP, first.erase]

end Effects

/-- What a library holds after operations: distinct names stay distinct, a new entry comes from a
save and has a trimmed name, and a look-up finds the content of the last save of the name that no
deletion follows. -/
structure Remembers (l : Library) (ops : List Operation) (l' : Library) : Prop where
  distinct : l.Distinct → l'.Distinct
  origin : ∀ kind, ∀ s ∈ l'.entries kind, s ∈ l.entries kind ∨
    (∃ op ∈ ops, op.Stores kind s.name s.content) ∧ s.name.strip = s.name ∧ s.name ≠ []
  stored : ∀ before op after kind name content, ops = before ++ op :: after →
    op.Stores kind name content → (∀ later ∈ after, ¬ later.Touches kind name) →
    l'.get kind name = .ok ⟨name, content⟩
  deleted : l.Distinct → ∀ before after kind name, ops = before ++ .delete kind name :: after →
    (∀ later ∈ after, ¬ later.Touches kind name) →
    l'.get kind name = .error (.unknownName kind name ((l'.entries kind).map Snippet.name))
  untouched : ∀ kind name, (∀ op ∈ ops, ¬ op.Touches kind name) →
    ∀ s, l'.get kind name = .ok s ↔ l.get kind name = .ok s

section Runs

variable {l : Library} {ops : List Operation} {kind : Kind} {name content : WideText}

theorem effect_perform (l : Library) (op : Operation) :
    Effect l op (l.perform op).1 (l.perform op).2 :=
  perform_eq_iff.mp rfl

theorem run_append (l : Library) (ops later : List Operation) :
    l.run (ops ++ later) = (l.run ops).run later :=
  List.foldl_append

theorem distinct_run (distinct : l.Distinct) (ops : List Operation) : (l.run ops).Distinct := by
  induction ops generalizing l with
  | nil => exact distinct
  | cons op ops ih =>
    exact ih fun kind => ((effect_perform l op).change kind).distinct (distinct kind)

theorem mem_entries_run {s : Snippet} (member : s ∈ (l.run ops).entries kind) :
    s ∈ l.entries kind ∨ ∃ op ∈ ops, op.Stores kind s.name s.content := by
  induction ops generalizing l with
  | nil => exact .inl member
  | cons op ops ih =>
    rcases ih member with earlier | ⟨later, listed, stores⟩
    · rcases ((effect_perform l op).change kind).mem earlier with first | stores
      · exact .inl first
      · exact .inr ⟨op, List.mem_cons_self, stores⟩
    · exact .inr ⟨later, List.mem_cons_of_mem op listed, stores⟩

theorem find?_run_of_untouched (untouched : ∀ op ∈ ops, ¬ op.Touches kind name) :
    ((l.run ops).entries kind).find? (fun s => s.name = name) =
      (l.entries kind).find? (fun s => s.name = name) := by
  induction ops generalizing l with
  | nil => rfl
  | cons op ops ih =>
    obtain ⟨first, later⟩ := List.forall_mem_cons.mp untouched
    exact (ih later).trans (((effect_perform l op).change kind).find?_of_untouched first)

theorem remembers_run (l : Library) (ops : List Operation) : Remembers l ops (l.run ops) where
  distinct distinct := distinct_run distinct ops
  origin kind s member := by
    refine (mem_entries_run member).imp_right fun stored => ⟨stored, ?_⟩
    obtain ⟨op, -, spelled, -, trimmed, nonblank⟩ := stored
    exact ⟨by rw [← trimmed, WideText.strip_strip], nonblank⟩
  stored before op after kind name content := by
    rintro rfl stores untouched
    rw [run_append, get_eq_ok_iff]
    refine (find?_run_of_untouched (l := ((l.run before).perform op).1) untouched).trans ?_
    exact get_eq_ok_iff.mp ((effect_perform (l.run before) op).get_of_stores stores)
  deleted distinct before after kind name := by
    rintro rfl untouched
    have gone := (effect_perform (l.run before) (.delete kind name)).absent_of_delete
      (distinct_run distinct before)
    rw [run_append]
    refine get_of_find?_none ?_
    exact (find?_run_of_untouched (l := ((l.run before).perform (.delete kind name)).1)
      untouched).trans (find?_of_absent gone)
  untouched kind name untouched s := by
    rw [get_eq_ok_iff, get_eq_ok_iff, find?_run_of_untouched untouched]

end Runs

/-- A library is an ordered map for each kind. Every operation has exactly its effect, on one entry
of one kind at most; what is refused is a mistake of the user; the entry that is deleted by name is
the one that is removed by value. So a library remembers any run of operations. -/
theorem ordered_map (l : Library) :
    (∀ op l' outcome, l.perform op = (l', outcome) ↔ Effect l op l' outcome) ∧
    (∀ op p, (l.perform op).2 = .error p → ∀ path, (p.report path).kind = .userInput) ∧
    (∀ op kind, kind ≠ op.kind → (l.perform op).1.entries kind = l.entries kind) ∧
    (∀ kind name s, l.get kind name = .ok s →
      l.delete kind name = .ok (l.withEntries kind ((l.entries kind).erase s))) ∧
    ∀ ops, Remembers l ops (l.run ops) := by
  refine ⟨fun op l' outcome => perform_eq_iff, fun op p refused path => ?_, fun op kind other => ?_,
    fun kind name s => delete_eq_erase, remembers_run l⟩
  · have effect := effect_perform l op
    rw [refused] at effect
    exact effect.kind_of_error path
  · exact (effect_perform l op).entries_of_ne other

/-- A name that is saved with blanks around it, replaced, deleted and saved again. -/
theorem ordered_map_resaved :
    let a : WideText := [.char 'a']
    let ops : List Operation := [.save .data [.char ' ', .char 'a'] [.char '1'],
      .save .style a [.half 0], .delete .data a, .save .data a [.char '3'],
      .save .data [.char 'b'] []]
    (empty.run ops).Distinct ∧ (empty.run ops).get .data a = .ok ⟨a, [.char '3']⟩ := by
  intro a ops
  have remembers := (ordered_map empty).2.2.2.2 ops
  have distinct : empty.Distinct := by
    intro kind
    cases kind <;> exact List.nodup_nil
  refine ⟨remembers.distinct distinct, ?_⟩
  refine remembers.stored (ops.take 3) (.save .data a [.char '3']) [.save .data [.char 'b'] []]
    .data a [.char '3'] rfl ⟨a, rfl, by decide, by decide⟩ ?_
  intro later listed touches
  obtain rfl := List.mem_singleton.mp listed
  rcases touches with ⟨content, spelled, saved, trimmed, -⟩ | deleted
  · cases saved
    exact absurd trimmed (by decide)
  · cases deleted

end Folio.Library
