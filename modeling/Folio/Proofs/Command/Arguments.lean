import Folio.Command.Arguments

/-! Command lines that render files into a file: which of them are accepted, and what they stand
for. -/
namespace Folio.Command

open Document (Format)
open Storage (Path)

section Tokens

variable {σ : Type} {options : Options σ} {s w : Text} {words : List Text}

theorem classify_of_plain (options : Options σ) (plain : s.head? ≠ some '-') :
    classify options s = .ok (.word s) := by
  unfold classify
  split
  · exact absurd rfl plain
  · rfl

theorem option_of_mem_abbreviated {token : Token σ} (member : token ∈ abbreviated options s) :
    ∃ effect attachment, token = .option effect attachment := by
  unfold abbreviated at member
  split at member
  all_goals
    obtain ⟨⟨name, effect⟩, -, found⟩ := List.mem_filterMap.mp member
  · obtain ⟨-, same⟩ := Option.ite_none_right_eq_some.mp found
    exact ⟨effect, _, (Option.some.inj same).symm⟩
  · dsimp only at found
    split at found
    · exact ⟨effect, _, (Option.some.inj found).symm⟩
    · obtain ⟨-, same⟩ := Option.ite_none_right_eq_some.mp found
      exact ⟨effect, _, (Option.some.inj same).symm⟩

/-- A word that is taken for a plain one is taken as it is. -/
theorem eq_of_classify_word (classified : classify options s = .ok (.word w)) : w = s := by
  unfold classify at classified
  split at classified
  · split at classified
    · cases classified
    · dsimp only at classified
      split at classified
      -- a word with an assignment and an abbreviation are options, never plain words
      · next token assigned =>
        simp only [Option.bind_eq_bind, Option.bind_eq_some_iff, Option.pure_def,
          Option.some.injEq] at assigned
        obtain ⟨cut, -, effect, -, rfl⟩ := assigned
        cases classified
      · next token _ sole =>
        obtain ⟨effect, attachment, rfl⟩ :=
          option_of_mem_abbreviated (sole ▸ List.mem_singleton.mpr rfl)
        cases classified
      · cases classified
      · split at classified
        · exact (Token.word.inj (Except.ok.inj classified)).symm
        · cases classified
  · exact (Token.word.inj (Except.ok.inj classified)).symm

theorem tokens_cons_eq_ok_iff {ts : List (Text × Token σ)} (proper : s ≠ separatorWord) :
    tokens options (s :: words) = .ok ts ↔ ∃ token later, classify options s = .ok token ∧
      tokens options words = .ok later ∧ ts = (s, token) :: later := by
  rw [tokens, if_neg proper]
  cases classify options s with
  | error stop => simp
  | ok token => cases tokens options words <;> simp [Except.map, eq_comm]

theorem map_fst_of_tokens {ts : List (Text × Token σ)} (read : tokens options words = .ok ts) :
    ts.map Prod.fst = words := by
  induction words generalizing ts with
  | nil =>
    cases read
    rfl
  | cons s words ih =>
    by_cases separator : s = separatorWord
    · rw [tokens, if_pos separator] at read
      obtain rfl := Except.ok.inj read
      simp [Function.comp_def]
    · obtain ⟨token, later, -, behind, rfl⟩ := (tokens_cons_eq_ok_iff separator).mp read
      rw [List.map_cons, ih behind]

theorem tokens_ok_iff (proper : separatorWord ∉ words) :
    (∃ ts, tokens options words = .ok ts) ↔
      ∀ s ∈ words, ∃ token, classify options s = .ok token := by
  induction words with
  | nil => simp [tokens]
  | cons s words ih =>
    rw [List.mem_cons, not_or] at proper
    obtain ⟨first, others⟩ := proper
    rw [List.forall_mem_cons, ← ih others]
    constructor
    · rintro ⟨ts, read⟩
      obtain ⟨token, later, classified, behind, -⟩ :=
        (tokens_cons_eq_ok_iff (Ne.symm first)).mp read
      exact ⟨⟨token, classified⟩, later, behind⟩
    · rintro ⟨⟨token, classified⟩, later, behind⟩
      exact ⟨_, (tokens_cons_eq_ok_iff (Ne.symm first)).mpr ⟨token, later, classified, behind, rfl⟩⟩

end Tokens

section Takes

variable {σ : Type} {options : Options σ} {name s : Text} {words : List Text} {o out : Outcome σ}

/-- The words of a command without operands lead from one state to another. -/
def Takes (options : Options σ) (words : List Text) (o out : Outcome σ) : Prop :=
  ∃ ts, tokens options words = .ok ts ∧ take false o [] ts = .ok (out, [])

/-- A word that can stand behind an option as its value. -/
def IsWord (options : Options σ) (s : Text) : Prop :=
  s ≠ separatorWord ∧ classify options s = .ok (.word s)

theorem takes_nil : Takes options [] o out ↔ o = out := by
  simp [Takes, tokens, take]

theorem takes_flag {set : σ → σ} (proper : name ≠ separatorWord)
    (known : classify options name = .ok (.option (.flag set) .none)) :
    Takes options (name :: words) o out ↔
      Takes options words { o with state := set o.state } out := by
  unfold Takes
  constructor
  · rintro ⟨ts, read, taken⟩
    obtain ⟨token, later, classified, behind, rfl⟩ := (tokens_cons_eq_ok_iff proper).mp read
    cases known.symm.trans classified
    exact ⟨later, behind, taken⟩
  · rintro ⟨later, behind, taken⟩
    exact ⟨_, (tokens_cons_eq_ok_iff proper).mpr ⟨_, later, known, behind, rfl⟩, taken⟩

theorem takes_value {set : Text → σ → Except Stop σ} {state : σ} (proper : name ≠ separatorWord)
    (known : classify options name = .ok (.option (.value set) .none))
    (sets : set s o.state = .ok state) :
    Takes options (name :: s :: words) o out ↔
      IsWord options s ∧ Takes options words { o with state } out := by
  unfold Takes
  constructor
  · rintro ⟨ts, read, taken⟩
    obtain ⟨token, later, classified, behind, rfl⟩ := (tokens_cons_eq_ok_iff proper).mp read
    cases known.symm.trans classified
    by_cases separator : s = separatorWord
    · -- an option takes no separator as its value
      rw [tokens, if_pos separator] at behind
      cases behind
      cases taken
    · obtain ⟨token, rest, value, last, rfl⟩ := (tokens_cons_eq_ok_iff separator).mp behind
      cases token with
      | word w =>
        obtain rfl := eq_of_classify_word value
        simp only [take, sets] at taken
        exact ⟨⟨separator, value⟩, rest, last, taken⟩
      | option effect attachment => cases taken
      | unknown => cases taken
      | separator => cases taken
  · rintro ⟨⟨separator, value⟩, rest, behind, taken⟩
    refine ⟨_, (tokens_cons_eq_ok_iff proper).mpr ⟨_, _, known,
      (tokens_cons_eq_ok_iff separator).mpr ⟨_, rest, value, behind, rfl⟩, rfl⟩, ?_⟩
    simp only [take, sets]
    exact taken

def optionWords (name : String) : Option Text → List Text
  | none => []
  | some s => [name.toList, s]

theorem takes_optional {name : String} (state : Option Text → Outcome σ)
    (given : ∀ s, Takes options (name.toList :: s :: words) (state none) out ↔
      IsWord options s ∧ Takes options words (state (some s)) out) (value : Option Text) :
    Takes options (optionWords name value ++ words) (state none) out ↔
      (∀ s ∈ value, IsWord options s) ∧ Takes options words (state value) out := by
  cases value with
  | none => simp [optionWords]
  | some s => simpa [optionWords] using given s

end Takes

def markupWords : Option Bool → List Text
  | none => []
  | some true => ["--markup".toList]
  | some false => ["--no-markup".toList]

/-- A template, data and a style sheet that are files, and where to write what comes of them. -/
structure FileRendering where
  template : Text
  data : Option Text
  style : Option Text
  format : Format
  markup : Option Bool
  output : Text

namespace FileRendering

def words (f : FileRendering) : List Text :=
  "render".toList :: "--template".toList :: f.template :: (optionWords "--data" f.data ++
    (optionWords "--style" f.style ++ ("--format".toList :: f.format.name ::
      (markupWords f.markup ++ ["--output".toList, f.output]))))

def paths (f : FileRendering) : List Text :=
  f.template :: f.output :: (f.data.toList ++ f.style.toList)

def rendering (f : FileRendering) : Rendering :=
  ⟨fileSource f.template, f.data.map fileSource, f.style.map fileSource, f.format,
    some (Path.ofText f.output), f.markup, false⟩

end FileRendering

section Render

/-- The options of the render command, the one for help included. -/
abbrev knownOptions : Options Draft := helpOptions ++ renderOptions

def drafted (template data style : Option Source) (format : Format) (output : Option Path)
    (markup : Option Bool) : Outcome Draft :=
  ⟨⟨template, data, style, format, output, markup, false⟩, false⟩

variable {template data style : Option Source} {format : Format} {output : Option Path}
  {markup : Option Bool} {s : Text} {words : List Text} {out : Outcome Draft}

theorem takes_template : Takes knownOptions ("--template".toList :: s :: words)
      (drafted none data style format output markup) out ↔ IsWord knownOptions s ∧
    Takes knownOptions words (drafted (some (fileSource s)) data style format output markup) out :=
  takes_value (by decide) rfl rfl

theorem takes_data (given : Option Text) :
    Takes knownOptions (optionWords "--data" given ++ words)
      (drafted template none style format output markup) out ↔
    (∀ s ∈ given, IsWord knownOptions s) ∧ Takes knownOptions words
      (drafted template (given.map fileSource) style format output markup) out :=
  takes_optional (fun given => drafted template (given.map fileSource) style format output markup)
    (fun _ => takes_value (by decide) rfl rfl) given

theorem takes_style (given : Option Text) :
    Takes knownOptions (optionWords "--style" given ++ words)
      (drafted template data none format output markup) out ↔
    (∀ s ∈ given, IsWord knownOptions s) ∧ Takes knownOptions words
      (drafted template data (given.map fileSource) format output markup) out :=
  takes_optional (fun given => drafted template data (given.map fileSource) format output markup)
    (fun _ => takes_value (by decide) rfl rfl) given

theorem takes_format (new : Format) : Takes knownOptions ("--format".toList :: new.name :: words)
      (drafted template data style format output markup) out ↔
    Takes knownOptions words (drafted template data style new output markup) out := by
  have named : IsWord knownOptions new.name := by
    constructor
    · cases new <;> decide
    · apply classify_of_plain
      cases new <;> decide
  have proper : "--format".toList ≠ separatorWord := by decide
  cases new with
  | _ => exact (takes_value proper rfl rfl).trans (and_iff_right named)

theorem takes_output : Takes knownOptions ("--output".toList :: s :: words)
      (drafted template data style format output markup) out ↔ IsWord knownOptions s ∧
    Takes knownOptions words
      (drafted template data style format (some (Path.ofText s)) markup) out :=
  takes_value (by decide) rfl rfl

theorem takes_markup (given : Option Bool) : Takes knownOptions (markupWords given ++ words)
      (drafted template data style format output none) out ↔
    Takes knownOptions words (drafted template data style format output given) out := by
  have force : classify knownOptions "--markup".toList =
      .ok (.option (.flag fun d => { d with markup := some true }) .none) := rfl
  have skip : classify knownOptions "--no-markup".toList =
      .ok (.option (.flag fun d => { d with markup := some false }) .none) := rfl
  match given with
  | none => exact Iff.rfl
  | some true => exact takes_flag (by decide) force
  | some false => exact takes_flag (by decide) skip

variable {settings : Settings} {f : FileRendering}

/-- Each option sets a field of its own, so all of them are set in the end. -/
theorem takes_words {first : Format} :
    Takes knownOptions f.words.tail (drafted none none none first none none) out ↔
      (∀ s ∈ f.paths, IsWord knownOptions s) ∧
        out = drafted (some (fileSource f.template)) (f.data.map fileSource)
          (f.style.map fileSource) f.format (some (Path.ofText f.output)) f.markup := by
  rw [FileRendering.words, List.tail_cons, takes_template, takes_data, takes_style, takes_format,
    takes_markup, takes_output, takes_nil]
  simp only [FileRendering.paths, List.forall_mem_cons, List.forall_mem_append, Option.mem_toList]
  constructor
  · rintro ⟨template, data, style, output, rfl⟩
    exact ⟨⟨template, output, data, style⟩, rfl⟩
  · rintro ⟨⟨template, output, data, style⟩, rfl⟩
    exact ⟨template, data, style, output, rfl⟩

end Render

section Parse

variable {settings : Settings} {f : FileRendering} {i : Invocation}

theorem takeAll_eq_ok_iff {σ : Type} {options : Options σ} {start : σ} {words : List Text}
    {out : Outcome σ} : takeAll options [] 0 start words = .ok out ↔
      Takes (helpOptions ++ options) words ⟨start, false⟩ out := by
  simp only [takeAll, Except.bind_eq_ok_iff, Takes]
  constructor
  · rintro ⟨ts, read, ⟨o, missing⟩, taken, ended⟩
    dsimp only at ended
    split at ended
    · next few =>
      obtain rfl := Except.ok.inj ended
      obtain rfl := List.length_eq_zero_iff.mp (Nat.le_zero.mp few)
      exact ⟨ts, read, taken⟩
    · cases ended
  · rintro ⟨ts, read, taken⟩
    exact ⟨ts, read, _, taken, rfl⟩

theorem parseRender_words {command : Outcome Action} :
    parseRender settings f.words.tail = .ok command ↔
      (∀ s ∈ f.paths, IsWord knownOptions s) ∧ command = ⟨.render f.rendering, false⟩ := by
  simp only [parseRender, Except.bind_eq_ok_iff, takeAll_eq_ok_iff]
  constructor
  · rintro ⟨o, taken, ended⟩
    obtain ⟨accepted, rfl⟩ := takes_words.mp taken
    exact ⟨accepted, (Except.ok.inj ended).symm⟩
  · rintro ⟨accepted, rfl⟩
    exact ⟨_, takes_words.mpr ⟨accepted, rfl⟩, rfl⟩

def fixedWords : List Text :=
  ["--template", "--data", "--style", "--format", "--markup", "--no-markup", "--output"].map
    String.toList ++ Format.all.map Format.name

theorem forall_mem_optionWords {P : Text → Prop} {name : String} (fixed : P name.toList)
    (value : Option Text) : (∀ s ∈ optionWords name value, P s) ↔ ∀ s ∈ value, P s := by
  cases value <;> simp [optionWords, fixed]

theorem name_mem_fixedWords (format : Format) : format.name ∈ fixedWords := by
  refine List.mem_append_right _ (List.mem_map_of_mem ?_)
  cases format <;> decide

/-- What holds of the fixed words holds of all if it holds of the paths. -/
theorem forall_mem_words {P : Text → Prop} (fixed : ∀ s ∈ fixedWords, P s) :
    (∀ s ∈ f.words.tail, P s) ↔ ∀ s ∈ f.paths, P s := by
  have template := fixed "--template".toList (by decide)
  have data := fixed "--data".toList (by decide)
  have style := fixed "--style".toList (by decide)
  have format := fixed "--format".toList (by decide)
  have output := fixed "--output".toList (by decide)
  have markup : ∀ s ∈ markupWords f.markup, P s := by
    intro s member
    apply fixed s
    match chosen : f.markup with
    | none => simp [chosen, markupWords] at member
    | some true =>
      obtain rfl : s = "--markup".toList := by simpa [chosen, markupWords] using member
      decide
    | some false =>
      obtain rfl : s = "--no-markup".toList := by simpa [chosen, markupWords] using member
      decide
  simp only [FileRendering.words, FileRendering.paths, List.tail_cons, List.forall_mem_cons,
    List.forall_mem_append, forall_mem_optionWords data, forall_mem_optionWords style,
    Option.mem_toList]
  constructor
  · rintro ⟨-, isTemplate, isData, isStyle, -, -, -, -, isOutput, -⟩
    exact ⟨isTemplate, isOutput, isData, isStyle⟩
  · rintro ⟨isTemplate, isOutput, isData, isStyle⟩
    exact ⟨template, isTemplate, isData, isStyle, format, fixed _ (name_mem_fixedWords _), markup,
      output, isOutput, List.forall_mem_nil P⟩

/-- A word that both parsers let pass: the one that finds the command, and the one of the command,
where it is the value of an option. -/
structure IsValue (s : Text) : Prop where
  word : IsWord knownOptions s
  passed : ∃ token, classify (helpOptions ++ globalOptions) s = .ok token

theorem isValue_of_plain {s : Text} (plain : s.head? ≠ some '-') : IsValue s where
  word := ⟨fun separator => plain (by rw [separator]; rfl), classify_of_plain _ plain⟩
  passed := ⟨_, classify_of_plain _ plain⟩

/-- Nothing stands before the name of the command, so all words behind it are the command's. -/
theorem parse_render {words : List Text} : parse settings ("render".toList :: words) = .ok i ↔
    (∃ ts, tokens (helpOptions ++ globalOptions) words = .ok ts) ∧
      ∃ action, parseRender settings words = .ok ⟨action, false⟩ ∧
        i = ⟨settings.logLevel, settings.libraryPath, action⟩ := by
  have proper : "render".toList ≠ separatorWord := by decide
  have named : classify (helpOptions ++ globalOptions) "render".toList =
      .ok (.word "render".toList) := rfl
  unfold parse
  rw [tokens, if_neg proper, named]
  cases read : tokens (helpOptions ++ globalOptions) words with
  | error stop => simp [Except.map, bind, Except.bind]
  | ok ts =>
    have whole : parseCommand settings "render".toList (ts.map Prod.fst) =
        parseRender settings words := by
      rw [map_fst_of_tokens read]
      rfl
    simp only [Except.map, bind, Except.bind, beforeCommand, take, whole]
    rw [and_iff_right ⟨ts, rfl⟩]
    cases parseRender settings words with
    | error stop => simp
    | ok command =>
      obtain ⟨action, leftOver⟩ := command
      cases leftOver <;> simp [throw, throwThe, MonadExceptOf.throw, pure, Except.pure, eq_comm]

/-- The command line is accepted exactly if each of its paths can stand as a value, and then it
stands for the rendering of these files. -/
theorem parse_words : parse settings f.words = .ok i ↔ (∀ s ∈ f.paths, IsValue s) ∧
    i = ⟨settings.logLevel, settings.libraryPath, .render f.rendering⟩ := by
  have fixed : ∀ s ∈ fixedWords, s ≠ separatorWord ∧
      (classify (helpOptions ++ globalOptions) s).isOk = true := by decide +kernel
  have separated : (∀ s ∈ f.words.tail, s ≠ separatorWord) ↔ ∀ s ∈ f.paths, s ≠ separatorWord :=
    forall_mem_words fun s member => (fixed s member).1
  have passed : (∀ s ∈ f.words.tail, ∃ token, classify (helpOptions ++ globalOptions) s =
      .ok token) ↔ ∀ s ∈ f.paths, ∃ token, classify (helpOptions ++ globalOptions) s =
        .ok token := by
    refine forall_mem_words fun s member => ?_
    exact Except.isOk_iff.mp (fixed s member).2
  have shape : f.words = "render".toList :: f.words.tail := rfl
  rw [shape, parse_render]
  constructor
  · rintro ⟨read, action, parsed, rfl⟩
    obtain ⟨words, same⟩ := parseRender_words.mp parsed
    obtain ⟨rfl, -⟩ := Outcome.mk.inj same
    have proper : separatorWord ∉ f.words.tail := fun member =>
      separated.mpr (fun s inside => (words s inside).1) _ member rfl
    have values := passed.mp ((tokens_ok_iff proper).mp read)
    exact ⟨fun s inside => ⟨words s inside, values s inside⟩, rfl⟩
  · rintro ⟨values, rfl⟩
    have proper : separatorWord ∉ f.words.tail := fun member =>
      separated.mpr (fun s inside => (values s inside).word.1) _ member rfl
    refine ⟨(tokens_ok_iff proper).mpr (passed.mpr fun s inside => (values s inside).passed), _,
      parseRender_words.mpr ⟨fun s inside => (values s inside).word, rfl⟩, rfl⟩

end Parse

end Folio.Command
