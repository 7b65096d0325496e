import Folio.Library.Stored
import Folio.Proofs.Library.OrderedMap
import Folio.Proofs.Library.RoundTrip
import Mathlib.Data.List.Forall2

/-! What a failed request leaves of a library: all of it, or, after a load that finds one kind
malformed, the kinds before that one as the file has them and the others as they were. -/
namespace Folio.Library

open Json (WideValue)
open Storage (FileSystem Path)

/-- What a library can be asked for. A kind is named by a text, which may be no kind's name. -/
inductive Request
  | load
  | flush
  | save (kind : Text) (name content : WideText)
  | delete (kind : Text) (name : WideText)
  | get (kind : Text) (name : WideText)
  | list (kind : Text)

structure Holding where
  files : FileSystem
  library : Library

namespace Holding

def perform (path : Path) (s : Holding) (kind : Text) (op : Kind → Operation) :
    Holding × Except Failure (Option Answer) :=
  match Kind.ofName? kind with
  | none => (s, .error (.unknownKind kind))
  | some kind =>
    match s.library.perform (op kind) with
    | (l, .ok answer) => ({ s with library := l }, .ok (some answer))
    | (l, .error p) => ({ s with library := l }, .error (.report (p.report path)))

def carryOut (room : Room) (path : Path) (s : Holding) :
    Request → Holding × Except Failure (Option Answer)
  | .load =>
    match Library.load room s.files path s.library with
    | (l, .ok ()) => ({ s with library := l }, .ok none)
    | (l, .error f) => ({ s with library := l }, .error f)
  | .flush =>
    match s.library.flush room s.files path with
    | (fs, .ok ()) => ({ s with files := fs }, .ok none)
    | (fs, .error f) => ({ s with files := fs }, .error f)
  | .save kind name content => s.perform path kind fun kind => .save kind name content
  | .delete kind name => s.perform path kind fun kind => .delete kind name
  | .get kind name => s.perform path kind fun kind => .get kind name
  | .list kind => s.perform path kind fun kind => .list kind

end Holding

section Entries

/-- An entry of a library file that holds a snippet: an object with a name and a content. -/
def IsEntry (entry : WideValue) (s : Snippet) : Prop :=
  ∃ fields : WideFields, entry = .map fields ∧
    fields.get? (Text.wide "name".toList) = some (.text s.name) ∧
    fields.get? (Text.wide "content".toList) = some (.text s.content)

/-- All that the object of a library file has under a kind. What is not there is an empty list. -/
inductive Lists (object : WideFields) (kind : Kind) : List Snippet → Prop
  | absent : object.get? kind.name.wide = none → Lists object kind []
  | present {items : List WideValue} {snippets : List Snippet} :
      object.get? kind.name.wide = some (.seq items) → List.Forall₂ IsEntry items snippets →
      Lists object kind snippets

/-- Why nothing is taken from an object under a kind: no list is there, or the first of its entries
that holds no snippet. -/
inductive Refuses (object : WideFields) (kind : Kind) : Problem → Prop
  | noList {value : WideValue} : object.get? kind.name.wide = some value →
      (∀ items, value ≠ .seq items) → Refuses object kind (.noList kind)
  | badEntry {before after : List WideValue} {entry : WideValue} :
      object.get? kind.name.wide = some (.seq (before ++ entry :: after)) →
      (∀ e ∈ before, ∃ s, IsEntry e s) → (¬ ∃ s, IsEntry entry s) →
      Refuses object kind (.badEntry kind entry)

theorem Snippet.ofValue?_eq_some_iff {entry : WideValue} {s : Snippet} :
    Snippet.ofValue? entry = some s ↔ IsEntry entry s := by
  constructor
  · intro found
    unfold Snippet.ofValue? at found
    split at found
    · split at found
      · next name content =>
        cases found
        exact ⟨_, rfl, name, content⟩
      · cases found
    · cases found
  · rintro ⟨fields, rfl, name, content⟩
    simp only [Snippet.ofValue?, name, content]

theorem Snippet.ofValue?_eq_none_iff {entry : WideValue} :
    Snippet.ofValue? entry = none ↔ ¬ ∃ s, IsEntry entry s := by
  simp only [← Snippet.ofValue?_eq_some_iff, ← Option.isSome_iff_exists,
    Option.not_isSome_iff_eq_none]

theorem readSnippets_of_entries {items : List WideValue} {snippets : List Snippet} (kind : Kind)
    (entries : List.Forall₂ IsEntry items snippets) : readSnippets kind items = .ok snippets := by
  induction entries with
  | nil => rfl
  | cons entry _ ih =>
    rw [readSnippets, Snippet.ofValue?_eq_some_iff.mpr entry, ih]
    rfl

theorem readSnippets_cases (kind : Kind) (items : List WideValue) :
    (∃ snippets, readSnippets kind items = .ok snippets ∧ List.Forall₂ IsEntry items snippets) ∨
      ∃ before entry after, items = before ++ entry :: after ∧
        readSnippets kind items = .error (.badEntry kind entry) ∧
        (∀ e ∈ before, ∃ s, IsEntry e s) ∧ ¬ ∃ s, IsEntry entry s := by
  induction items with
  | nil => exact .inl ⟨[], rfl, .nil⟩
  | cons entry rest ih =>
    cases found : Snippet.ofValue? entry with
    | none =>
      refine .inr ⟨[], entry, rest, rfl, by rw [readSnippets, found], by simp, ?_⟩
      exact Snippet.ofValue?_eq_none_iff.mp found
    | some s =>
      have own : IsEntry entry s := Snippet.ofValue?_eq_some_iff.mp found
      rcases ih with ⟨snippets, read, entries⟩ | ⟨before, bad, after, split, read, good, malformed⟩
      · refine .inl ⟨s :: snippets, ?_, .cons own entries⟩
        rw [readSnippets, found, read]
        rfl
      · refine .inr ⟨entry :: before, bad, after, by rw [split, List.cons_append], ?_,
          List.forall_mem_cons.mpr ⟨⟨s, own⟩, good⟩, malformed⟩
        rw [readSnippets, found, read]
        rfl

variable {object : WideFields} {kind : Kind} {snippets : List Snippet} {p : Problem}

theorem readKind_cases (object : WideFields) (kind : Kind) :
    (∃ snippets, readKind object kind = .ok snippets ∧ Lists object kind snippets) ∨
      ∃ p, readKind object kind = .error p ∧ Refuses object kind p := by
  unfold readKind
  split
  · next missing => exact .inl ⟨[], rfl, .absent missing⟩
  · next items found =>
    rcases readSnippets_cases kind items with
      ⟨snippets, read, entries⟩ | ⟨before, entry, after, rfl, read, good, malformed⟩
    · exact .inl ⟨snippets, read, .present found entries⟩
    · exact .inr ⟨_, read, .badEntry found good malformed⟩
  · next other found => exact .inr ⟨_, rfl, .noList found other⟩

theorem readKind_of_lists (lists : Lists object kind snippets) :
    readKind object kind = .ok snippets := by
  cases lists with
  | absent missing => rw [readKind, missing]
  | present found entries =>
    rw [readKind, found]
    exact readSnippets_of_entries kind entries

theorem readKind_eq_ok_iff : readKind object kind = .ok snippets ↔ Lists object kind snippets := by
  refine ⟨fun read => ?_, readKind_of_lists⟩
  obtain ⟨snippets', read', lists⟩ | ⟨p, refused, -⟩ := readKind_cases object kind
  · exact Except.ok.inj (read.symm.trans read') ▸ lists
  · cases read.symm.trans refused

theorem refuses_of_readKind (failed : readKind object kind = .error p) : Refuses object kind p := by
  obtain ⟨snippets, read, -⟩ | ⟨p', failed', refuses⟩ := readKind_cases object kind
  · cases failed.symm.trans read
  · exact Except.error.inj (failed.symm.trans failed') ▸ refuses

end Entries

section Fill

/-- A kind holds all that the object lists under it, or the defaults where that is nothing. -/
def TakenOver (object : WideFields) (kind : Kind) (l : Library) : Prop :=
  ∃ snippets, Lists object kind snippets ∧ l.entries kind = orDefaults kind snippets

/-- The kinds are taken over one after the other, each as a whole, up to the first malformed one. -/
theorem fill_spec (object : WideFields) {kinds : List Kind} (distinct : kinds.Nodup) (l : Library) :
    ∃ taken rest, kinds = taken ++ rest ∧
      (∀ kind ∈ taken, TakenOver object kind (fill object kinds l).1) ∧
      (∀ kind ∉ taken, (fill object kinds l).1.entries kind = l.entries kind) ∧
      (rest = [] ∧ (fill object kinds l).2 = .ok () ∨
        ∃ kind later p, rest = kind :: later ∧ readKind object kind = .error p ∧
          (fill object kinds l).2 = .error p) := by
  induction kinds generalizing l with
  | nil => exact ⟨[], [], rfl, by simp, fun _ _ => rfl, .inl ⟨rfl, rfl⟩⟩
  | cons first kinds ih =>
    obtain ⟨new, distinct⟩ := List.nodup_cons.mp distinct
    cases read : readKind object first with
    | error p =>
      have stopped : fill object (first :: kinds) l = (l, .error p) := by rw [fill, read]
      rw [stopped]
      exact ⟨[], first :: kinds, rfl, by simp, fun _ _ => rfl,
        .inr ⟨first, kinds, p, rfl, read, rfl⟩⟩
    | ok snippets =>
      rw [fill_cons read]
      obtain ⟨taken, rest, rfl, whole, kept, ending⟩ :=
        ih distinct (l.withEntries first (orDefaults first snippets))
      have outside : first ∉ taken := fun member => new (List.mem_append_left rest member)
      refine ⟨first :: taken, rest, rfl, List.forall_mem_cons.mpr ⟨?_, whole⟩, ?_, ending⟩
      · -- no later kind writes where the first one was taken over
        exact ⟨snippets, readKind_eq_ok_iff.mp read, by rw [kept first outside]; simp⟩
      · intro kind untaken
        obtain ⟨other, untaken⟩ := not_or.mp (List.mem_cons.not.mp untaken)
        rw [kept kind untaken, entries_withEntries_of_ne l other]

end Fill

/-- What a request that failed has left of the library. -/
inductive Left (room : Room) (path : Path) (s : Holding) : Request → Failure → Library → Prop
  | whole {q : Request} {f : Failure} (other : q ≠ .load) : Left room path s q f s.library
  | unread {f : Failure} (unread : readFile room s.files path = .error f) :
      Left room path s .load f s.library
  | invalid {object : WideFields} {earlier later : List Kind} {kind : Kind} {p : Problem} {l : Library}
      (read : readFile room s.files path = .ok object) (order : Kind.all = earlier ++ kind :: later)
      (refused : Refuses object kind p) (taken : ∀ k ∈ earlier, TakenOver object k l)
      (kept : ∀ k ∈ kind :: later, l.entries k = s.library.entries k) :
      Left room path s .load (.report (p.report path)) l

section Load

variable {room : Room} {fs : FileSystem} {path : Path} {l : Library}

theorem load_of_readFile {object : WideFields} (read : readFile room fs path = .ok object) :
    (load room fs path l).1 = (fill object Kind.all l).1 ∧
      (load room fs path l).2 =
        (fill object Kind.all l).2.mapError fun p => .report (p.report path) := by
  unfold load
  rw [read]
  dsimp only
  split <;> simp [*, Except.mapError]

theorem load_of_unread {f : Failure} (unread : readFile room fs path = .error f) :
    load room fs path l = (l, .error f) := by
  rw [load, unread]

theorem nodup_all : Kind.all.Nodup := by decide

theorem left_of_load {s : Holding} {f : Failure}
    (failed : (load room s.files path s.library).2 = .error f) :
    Left room path s .load f (load room s.files path s.library).1 := by
  cases read : readFile room s.files path with
  | error f' =>
    rw [load_of_unread read] at failed ⊢
    cases failed
    exact .unread read
  | ok object =>
    obtain ⟨same, outcome⟩ := load_of_readFile (l := s.library) read
    obtain ⟨taken, rest, order, whole, kept, ⟨-, done⟩ | ⟨kind, later, p, rfl, refused, stopped⟩⟩ :=
      fill_spec object nodup_all s.library
    · rw [outcome, done] at failed
      cases failed
    · rw [outcome, stopped] at failed
      cases failed
      rw [same]
      have apart := List.disjoint_of_nodup_append (order ▸ nodup_all)
      exact .invalid read order (refuses_of_readKind refused) whole fun k member =>
        kept k fun inside => apart inside member

/-- However a load ends, each kind is as it was or holds all that the file lists. -/
theorem load_whole (room : Room) (fs : FileSystem) (path : Path) (l : Library) (kind : Kind) :
    (load room fs path l).1.entries kind = l.entries kind ∨
      ∃ object, readFile room fs path = .ok object ∧ TakenOver object kind (load room fs path l).1 := by
  cases read : readFile room fs path with
  | error f => exact .inl (by rw [load_of_unread read])
  | ok object =>
    obtain ⟨same, -⟩ := load_of_readFile (l := l) read
    obtain ⟨taken, -, -, whole, kept, -⟩ := fill_spec object nodup_all l
    rw [same]
    by_cases member : kind ∈ taken
    · exact .inr ⟨object, rfl, whole kind member⟩
    · exact .inl (kept kind member)

theorem load_eq_ok_iff : (load room fs path l).2 = .ok () ↔
    ∃ object, readFile room fs path = .ok object ∧ ∀ kind, ∃ snippets, Lists object kind snippets := by
  constructor
  · intro loaded
    cases read : readFile room fs path with
    | error f => rw [load_of_unread read] at loaded; cases loaded
    | ok object =>
      obtain ⟨taken, rest, order, whole, -, ⟨rfl, -⟩ | ⟨_, _, p, -, -, stopped⟩⟩ :=
        fill_spec object nodup_all l
      · rw [List.append_nil] at order
        exact ⟨object, rfl, fun kind => (whole kind (order ▸ mem_all kind)).imp fun _ => And.left⟩
      · rw [(load_of_readFile read).2, stopped] at loaded
        cases loaded
  · rintro ⟨object, read, lists⟩
    rw [(load_of_readFile read).2]
    obtain ⟨-, -, -, -, -, ⟨-, done⟩ | ⟨kind, -, p, -, refused, -⟩⟩ := fill_spec object nodup_all l
    · rw [done]
      rfl
    · obtain ⟨snippets, listed⟩ := lists kind
      rw [readKind_of_lists listed] at refused
      cases refused

end Load

section Requests

variable {room : Room} {path : Path} {s s' : Holding} {f : Failure}

theorem perform_of_error {l l' : Library} {op : Operation} {p : Problem}
    (failed : l.perform op = (l', .error p)) : l' = l := by
  cases perform_eq_iff.mp failed with
  | blank => rfl
  | unknown => rfl
  | misses => rfl

theorem Holding.library_of_perform {kind : Text} {op : Kind → Operation}
    (failed : s.perform path kind op = (s', .error f)) : s'.library = s.library := by
  unfold Holding.perform at failed
  split at failed
  · cases failed
    rfl
  · split at failed
    · cases failed
    · next refused =>
      cases failed
      exact perform_of_error refused

theorem left_of_carryOut {q : Request} (failed : s.carryOut room path q = (s', .error f)) :
    Left room path s q f s'.library := by
  have kept (other : q ≠ .load) (same : s'.library = s.library) : Left room path s q f s'.library :=
    same ▸ .whole other
  cases q with
  | load =>
    unfold Holding.carryOut at failed
    dsimp only at failed
    split at failed
    · cases failed
    · next l f' loaded =>
      cases failed
      have left : Left room path s .load f (Library.load room s.files path s.library).1 :=
        left_of_load (congrArg Prod.snd loaded)
      rwa [loaded] at left
  | flush =>
    unfold Holding.carryOut at failed
    dsimp only at failed
    split at failed
    · cases failed
    · cases failed
      exact kept nofun rfl
  | save kind name content => exact kept nofun (Holding.library_of_perform failed)
  | delete kind name => exact kept nofun (Holding.library_of_perform failed)
  | get kind name => exact kept nofun (Holding.library_of_perform failed)
  | list kind =>
    have failed : s.perform path kind .list = (s', .error f) := failed
    exact kept nofun (Holding.library_of_perform failed)

/-- A request that fails does bounded damage. Only a load can change the library and fail, and it
stops before the first kind that is malformed: what it has taken over is whole, and the rest is as
it was. It succeeds exactly if it reads an object that lists snippets, or nothing, under every
kind. -/
theorem damage_bounded (room : Room) (path : Path) (s : Holding) :
    (∀ q s' f, s.carryOut room path q = (s', .error f) → Left room path s q f s'.library) ∧
      (∀ kind, (s.carryOut room path .load).1.library.entries kind = s.library.entries kind ∨
        ∃ object, readFile room s.files path = .ok object ∧
          TakenOver object kind (s.carryOut room path .load).1.library) ∧
      ((∃ s', s.carryOut room path .load = (s', .ok none)) ↔
        ∃ object, readFile room s.files path = .ok object ∧
          ∀ kind, ∃ snippets, Lists object kind snippets) := by
  have loads : (s.carryOut room path .load).1.library = (load room s.files path s.library).1 := by
    unfold Holding.carryOut
    dsimp only
    split <;> simp [*]
  refine ⟨fun q s' f => left_of_carryOut, fun kind => ?_, ?_⟩
  · rw [loads]
    exact load_whole room s.files path s.library kind
  · rw [← load_eq_ok_iff (l := s.library)]
    unfold Holding.carryOut
    dsimp only
    split <;> simp [*]

/-- A file whose second kind ends in an entry that holds no snippet, a save under a blank name, and
a list of a kind that there is not. -/
theorem damage_bounded_midway :
    let room : Room := ⟨3, 0, by decide⟩
    let path : Path := ⟨.here, ["lib.json".toList]⟩
    let document :=
      "\x7b\"style\": [], \"data\": [\x7b\"name\": \"d\", \"content\": \"2\"\x7d, 7],".toList ++
      " \"template\": [\x7b\"name\": \"t\", \"content\": \"1\"\x7d]\x7d".toList
    let fs : FileSystem := ⟨[(["lib.json".toList], .file (Text.Utf8.encode document))]⟩
    let old : List Snippet := [⟨[.half 0], []⟩]
    let s : Holding := ⟨fs, ⟨old, old, old⟩⟩
    let blank : Request := .save "data".toList [.char ' '] [.char 'x']
    let unknown : Request := .list "datum".toList
    (∃ s' f, s.carryOut room path .load = (s', .error f) ∧ Left room path s .load f s'.library ∧
      s'.library = ⟨[⟨[.char 't'], [.char '1']⟩], old, old⟩) ∧
      (∃ s' f, s.carryOut room path blank = (s', .error f) ∧ Left room path s blank f s'.library) ∧
      ∃ s' f, s.carryOut room path unknown = (s', .error f) ∧ Left room path s unknown f s'.library := by
  intro room path document fs old s blank unknown
  have fails {q : Request} (refused : (s.carryOut room path q).2.isOk = false) :
      ∃ s' f, s.carryOut room path q = (s', .error f) := by
    obtain ⟨f, failed⟩ := Except.isOk_eq_false_iff.mp refused
    exact ⟨_, f, Prod.ext rfl failed⟩
  have left := (damage_bounded room path s).1
  obtain ⟨s', f, failed⟩ := fails (q := .load) (by decide +kernel)
  have taken : (s.carryOut room path .load).1.library = ⟨[⟨[.char 't'], [.char '1']⟩], old, old⟩ := by
    decide +kernel
  rw [failed] at taken
  obtain ⟨s₁, f₁, refused⟩ := fails (q := blank) rfl
  obtain ⟨s₂, f₂, unlisted⟩ := fails (q := unknown) rfl
  exact ⟨⟨s', f, failed, left _ _ _ failed, taken⟩, ⟨s₁, f₁, refused, left _ _ _ refused⟩,
    s₂, f₂, unlisted, left _ _ _ unlisted⟩

end Requests

end Folio.Library
