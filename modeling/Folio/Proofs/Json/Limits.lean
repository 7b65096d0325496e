import Folio.Json.Read
import Folio.Proofs.Json.Blocks
import Mathlib.Data.List.Infix

/-! The limits of the reader: what a text holds in which an integer is too long or the nesting too
deep. -/
namespace Folio.Json

def isOpener (c : Char) : Bool := c == '[' || c == '{'

/-- What is found in a text with a fault. A breach can be anywhere; the limits need digits without
end or brackets in plenty. -/
def Fault.Shows (depth : Nat) (s : Text) : Fault → Prop
  | .breach _ _ => True
  | .integerTooLong n =>
    integerDigitLimit < n ∧
      ∃ run, run <:+: s ∧ run.length = n ∧ ∀ c ∈ run, (asciiDigit? c).isSome = true
  | .tooDeep _ => depth < s.countP isOpener

/-- A reading leaves an end of the text, or fails with a fault that the text shows. -/
def Sound {α : Type} (depth : Nat) (s : Text) : Reading α → Prop
  | .ok (_, rest) => rest <:+ s
  | .error fault => fault.Shows depth s

section Sound

variable {α β : Type} {depth : Nat} {s t : Text} {r : Reading α}

theorem Fault.Shows.mono {fault : Fault} (h : fault.Shows depth t) (ending : t <:+ s) :
    fault.Shows depth s := by
  cases fault with
  | breach => trivial
  | integerTooLong n =>
    obtain ⟨long, run, inside, rest⟩ := h
    exact ⟨long, run, inside.trans ending.isInfix, rest⟩
  | tooDeep => exact Nat.lt_of_lt_of_le h (ending.sublist.countP_le)

theorem Sound.mono (h : Sound depth t r) (ending : t <:+ s) : Sound depth s r := by
  match r with
  | .ok (_, rest) => exact List.IsSuffix.trans h ending
  | .error fault => exact Fault.Shows.mono h ending

theorem Sound.map (h : Sound depth s r) (f : α → β) :
    Sound depth s (r.map fun (a, rest) => (f a, rest)) := by
  match r with
  | .ok (_, rest) => exact h
  | .error fault => exact h

/-- A bracket in front allows one level more. -/
theorem Sound.deeper (h : Sound depth s r) {c : Char} (opener : isOpener c = true) :
    Sound (depth + 1) (c :: s) r := by
  match r with
  | .ok (_, rest) => exact List.IsSuffix.trans h (List.suffix_cons c s)
  | .error (.breach _ _) => trivial
  | .error (.integerTooLong n) =>
    have inside : (Fault.integerTooLong n).Shows (depth + 1) s := h
    exact inside.mono (List.suffix_cons c s)
  | .error (.tooDeep _) =>
    have inside : depth < s.countP isOpener := h
    show depth + 1 < (c :: s).countP isOpener
    rw [List.countP_cons_of_pos opener]
    omega

theorem sound_breachAt (b : Breach) (t : Text) : Sound depth s (breachAt b t : Reading α) :=
  trivial

theorem skipBlank_suffix (s : Text) : skipBlank s <:+ s := List.dropWhile_suffix isBlank

theorem suffix_of_skipBlank {rest : Text} {c : Char} (here : skipBlank t = c :: rest)
    (ending : t <:+ s) : rest <:+ s := by
  have after := (skipBlank_suffix t).trans ending
  rw [here] at after
  exact (List.suffix_cons c rest).trans after

end Sound

section Leaves

variable (depth : Nat)

theorem shows_of_lowHalf? {s : Text} {fault : Fault} (failed : lowHalf? s = .error fault)
    (t : Text) : fault.Shows depth t := by
  unfold lowHalf? at failed
  split at failed
  · split at failed
    · cases failed
      trivial
    · cases failed
  · cases failed

theorem sound_unicodeEscape (s : Text) : Sound depth s (unicodeEscape s) := by
  unfold unicodeEscape
  split
  · rename_i u a b c d e rest
    have behind : e :: rest <:+ u :: a :: b :: c :: d :: e :: rest := ⟨[u, a, b, c, d], rfl⟩
    split
    · exact sound_breachAt _ _
    · split
      · split
        · rename_i fault failed
          exact shows_of_lowHalf? depth failed _
        · exact ((List.drop_suffix 5 rest).trans (List.suffix_cons e rest)).trans behind
        · exact behind
      · exact behind
  · exact sound_breachAt _ _

theorem sound_readString (opening s : Text) : Sound depth s (readString opening s) := by
  induction s using readString.induct with
  | case1 =>
    rw [readString]
    exact sound_breachAt _ _
  | case2 rest =>
    rw [readString_quote]
    exact List.suffix_cons '"' rest
  | case3 =>
    rw [readString]
    exact sound_breachAt _ _
  | case4 tail fault failed =>
    have escape := sound_unicodeEscape depth ('u' :: tail)
    rw [failed] at escape
    rw [readString]
    split
    · rename_i fault' failed'
      rw [failed] at failed'
      cases failed'
      exact escape.mono (List.suffix_cons _ _)
    · rename_i found
      rw [failed] at found
      cases found
  | case5 tail c rest found ih =>
    have escape := sound_unicodeEscape depth ('u' :: tail)
    rw [found] at escape
    rw [readString_unit opening found]
    exact (ih.map _).mono (escape.trans (List.suffix_cons _ _))
  | case6 e rest other unknown =>
    rw [readString]
    · rw [unknown]
      exact sound_breachAt _ _
    · exact other
  | case7 e rest other c known ih =>
    rw [readString_simple opening known]
    exact (ih.map _).mono ⟨['\\', e], rfl⟩
  | case8 c rest quote single unit escape control =>
    rw [readString, if_pos control]
    · exact sound_breachAt _ _
    all_goals assumption
  | case9 c rest quote single unit escape printable ih =>
    rw [readString, if_neg printable]
    · exact (ih.map _).mono (List.suffix_cons c rest)
    all_goals assumption

theorem readDigits_spec {s rest : Text} {ds : List Nat} (read : readDigits s = (ds, rest)) :
    ∃ run, s = run ++ rest ∧ run.length = ds.length ∧ ∀ c ∈ run, (asciiDigit? c).isSome = true := by
  induction s generalizing ds with
  | nil =>
    cases read
    exact ⟨[], rfl, rfl, by simp⟩
  | cons c s ih =>
    cases digit : asciiDigit? c with
    | none =>
      simp only [readDigits, digit] at read
      cases read
      exact ⟨[], rfl, rfl, by simp⟩
    | some d =>
      obtain ⟨ds', rest', read'⟩ : ∃ ds' rest', readDigits s = (ds', rest') := ⟨_, _, rfl⟩
      simp only [readDigits, digit, read'] at read
      cases read
      obtain ⟨run, rfl, length, all⟩ := ih read'
      refine ⟨c :: run, rfl, by simp [length], ?_⟩
      exact List.forall_mem_cons.mpr ⟨by simp [digit], all⟩

theorem readDigits_suffix {s rest : Text} {ds : List Nat} (read : readDigits s = (ds, rest)) :
    rest <:+ s := by
  obtain ⟨run, rfl, _⟩ := readDigits_spec read
  exact List.suffix_append run rest

theorem readFraction?_suffix {s rest : Text} {ds : List Nat}
    (read : readFraction? s = some (ds, rest)) : rest <:+ s := by
  unfold readFraction? at read
  split at read
  · rename_i s
    split at read
    · cases read
    · exact (readDigits_suffix (Option.some.inj read)).trans (List.suffix_cons _ _)
  · cases read

theorem readExponent?_suffix {s rest : Text} {n : Int}
    (read : readExponent? s = some (n, rest)) : rest <:+ s := by
  unfold readExponent? at read
  split at read
  · rename_i c tail
    split at read
    · split at read
      rename_i sign unsigned signed
      have behind : unsigned <:+ tail := by
        split at signed
        · cases signed
          exact List.suffix_cons _ _
        · cases signed
          exact List.suffix_cons _ _
        · cases signed
          exact List.suffix_rfl
      split at read
      · cases read
      · rename_i digits
        cases read
        exact ((readDigits_suffix digits).trans behind).trans (List.suffix_cons _ _)
    · cases read
  · cases read

theorem getD_suffix {α : Type} {found? : Option (α × Text)} {s : Text} (absent : α)
    (found : ∀ a rest, found? = some (a, rest) → rest <:+ s) :
    (found?.getD (absent, s)).2 <:+ s := by
  cases found? with
  | none => exact List.suffix_rfl
  | some reading => exact found reading.1 reading.2 rfl

theorem sound_readNumber (s : Text) : Sound depth s (readNumber s) := by
  unfold readNumber
  split
  rename_i negative unsigned sign
  have behind : unsigned <:+ s := by
    split at sign
    · cases sign
      exact List.suffix_cons _ _
    · cases sign
      exact List.suffix_rfl
  dsimp only
  split
  · exact sound_breachAt _ _
  · rename_i whole t found
    -- the whole part is one zero, or a run of digits
    obtain ⟨ending, digits⟩ : t <:+ unsigned ∧ (1 < whole.length → ∃ run, run <:+: unsigned ∧
        run.length = whole.length ∧ ∀ c ∈ run, (asciiDigit? c).isSome = true) := by
      split at found
      · cases found
      · cases found
        exact ⟨List.tail_suffix unsigned, fun long => absurd long (by simp)⟩
      · obtain ⟨run, rfl, length, all⟩ := readDigits_spec (Option.some.inj found)
        exact ⟨List.suffix_append run t, fun _ => ⟨run, (List.prefix_append run t).isInfix,
          length, all⟩⟩
    have fraction := getD_suffix [] fun _ _ => @readFraction?_suffix t _ _
    have exponent := getD_suffix 0 fun _ _ =>
      @readExponent?_suffix ((readFraction? t).getD ([], t)).2 _ _
    have after := ((exponent.trans fraction).trans ending).trans behind
    split
    · exact after
    · split
      · rename_i long
        obtain ⟨run, inside, length, all⟩ := digits (by unfold integerDigitLimit at long; omega)
        exact ⟨long, run, inside.trans behind.isInfix, length, all⟩
      · exact after

theorem sound_readLeaf (s : Text) : Sound depth s (readLeaf s) := by
  unfold readLeaf
  split
  · rename_i rest
    exact ((sound_readString depth _ rest).map _).mono (List.suffix_cons _ _)
  · split
    · rename_i found constant
      obtain ⟨⟨name, value⟩, _, named⟩ := List.exists_of_findSome?_eq_some constant
      obtain ⟨rest, dropped, rfl⟩ := Option.map_eq_some_iff.mp named
      rw [Text.dropPrefix?_eq_some.mp dropped]
      exact List.suffix_append name rest
    · exact sound_readNumber depth s

end Leaves

section Containers

variable {depth : Nat} {item : Text → Reading WideValue}

theorem sound_readItems (sound : ∀ t, Sound depth t (item t)) (bound : Nat) (s : Text) :
    Sound depth s (readItems item bound s) := by
  induction bound generalizing s with
  | zero => exact sound_breachAt _ _
  | succ bound ih =>
    have first := sound s
    unfold readItems
    split
    · rename_i failed
      rwa [failed] at first
    · rename_i found
      rw [found] at first
      split
      · rename_i closing
        exact suffix_of_skipBlank closing first
      · rename_i rest comma
        exact ((ih (skipBlank rest)).map _).mono
          ((skipBlank_suffix rest).trans (suffix_of_skipBlank comma first))
      · exact sound_breachAt _ _

theorem sound_readArray (sound : ∀ t, Sound depth t (item t)) (s : Text) :
    Sound depth s (readArray item s) := by
  unfold readArray
  split
  · rename_i closing
    exact suffix_of_skipBlank closing List.suffix_rfl
  · exact ((sound_readItems sound _ _).map _).mono (skipBlank_suffix s)

theorem sound_readMembers (sound : ∀ t, Sound depth t (item t)) (bound : Nat)
    (fields : Members WideText) (s : Text) : Sound depth s (readMembers item bound fields s) := by
  induction bound generalizing fields s with
  | zero => exact sound_breachAt _ _
  | succ bound ih =>
    unfold readMembers
    split
    · rename_i tail
      have name := (sound_readString depth ('"' :: tail) tail).mono (List.suffix_cons '"' tail)
      split
      · rename_i failed
        rwa [failed] at name
      · rename_i found
        rw [found] at name
        split
        · rename_i rest colon
          have content := (sound (skipBlank rest)).mono
            ((skipBlank_suffix rest).trans (suffix_of_skipBlank colon name))
          split
          · rename_i failed
            rwa [failed] at content
          · rename_i found
            rw [found] at content
            split
            · rename_i closing
              exact suffix_of_skipBlank closing content
            · rename_i rest comma
              exact (ih _ (skipBlank rest)).mono
                ((skipBlank_suffix rest).trans (suffix_of_skipBlank comma content))
            · exact sound_breachAt _ _
        · exact sound_breachAt _ _
    · exact sound_breachAt _ _

theorem sound_readObject (sound : ∀ t, Sound depth t (item t)) (s : Text) :
    Sound depth s (readObject item s) := by
  unfold readObject
  split
  · rename_i closing
    exact suffix_of_skipBlank closing List.suffix_rfl
  · exact ((sound_readMembers sound _ _ _).map _).mono (skipBlank_suffix s)

end Containers

theorem sound_readValue (depth : Nat) (s : Text) : Sound depth s (readValue depth s) := by
  induction depth generalizing s with
  | zero =>
    unfold readValue
    split
    · simp [Sound, Fault.Shows, isOpener]
    · simp [Sound, Fault.Shows, isOpener]
    · exact sound_readLeaf 0 s
  | succ depth ih =>
    unfold readValue
    split
    · exact (sound_readObject ih _).deeper rfl
    · exact (sound_readArray ih _).deeper rfl
    · exact sound_readLeaf (depth + 1) s

/-- A document is refused for a limit only if it has the digits or the brackets to pass it. -/
theorem shows_of_read {depth : Nat} {document : Text} {fault : Fault}
    (refused : read depth document = .error fault) : fault.Shows depth document := by
  unfold read at refused
  split at refused
  · cases refused
    trivial
  · have value := (sound_readValue depth (skipBlank document)).mono (skipBlank_suffix document)
    split at refused
    · rename_i failed
      cases refused
      rwa [failed] at value
    · split at refused
      · cases refused
      · cases refused
        trivial

section Overruns

/-- A document that is refused for a limit of the reader and for no rule of the grammar. -/
def Overruns (depth : Nat) (document : Text) : Prop :=
  (∃ n, read depth document = .error (.integerTooLong n)) ∨
    ∃ b, read depth document = .error (.tooDeep b)

variable {depth : Nat}

theorem Overruns.shows {document : Text} (overruns : Overruns depth document) :
    (∃ run, run <:+: document ∧ integerDigitLimit < run.length ∧
      ∀ c ∈ run, (asciiDigit? c).isSome = true) ∨ depth < document.countP isOpener := by
  rcases overruns with ⟨n, refused⟩ | ⟨b, refused⟩
  · obtain ⟨long, run, inside, rfl, all⟩ := shows_of_read refused
    exact .inl ⟨run, inside, long, all⟩
  · exact .inr (shows_of_read refused)

theorem eq_of_isOpener {c : Char} (opener : isOpener c = true) : c = '[' ∨ c = '\x7b' := by
  simpa [isOpener] using opener

theorem not_isBlank_of_digit {c : Char} (digit : (asciiDigit? c).isSome = true) :
    Text.isBlank c = false := by
  simp only [asciiDigit?] at digit
  split at digit
  · rename_i bounds
    have above : 48 ≤ c.toNat := bounds.1
    have below : c.toNat ≤ 57 := bounds.2
    simp only [Text.isBlank]
    grind
  · cases digit

theorem not_overruns_of_allBlank {document : Text} (blank : Text.allBlank document = true) :
    ¬ Overruns depth document := by
  have visible {c : Char} (member : c ∈ document) : Text.isBlank c = true :=
    List.all_eq_true.mp blank c member
  intro overruns
  rcases overruns.shows with ⟨run, inside, long, all⟩ | deep
  · cases run with
    | nil => exact absurd long (by decide)
    | cons c run =>
      have digit := all c List.mem_cons_self
      have white := visible (inside.mem List.mem_cons_self)
      rw [not_isBlank_of_digit digit] at white
      cases white
  · obtain ⟨c, member, opener⟩ := List.countP_pos_iff.mp (Nat.zero_lt_of_lt deep)
    have white := visible member
    rcases eq_of_isOpener opener with rfl | rfl
    · cases white
    · cases white

theorem readValue_nested (depth : Nat) {n : Nat} (deep : depth < n) (rest : Text) :
    readValue depth (List.replicate n '[' ++ rest) = .error (.tooDeep true) := by
  induction depth generalizing n with
  | zero =>
    obtain ⟨m, rfl⟩ : ∃ m, n = m + 1 := ⟨n - 1, by omega⟩
    rfl
  | succ depth ih =>
    obtain ⟨m, rfl⟩ : ∃ m, n = m + 2 := ⟨n - 2, by omega⟩
    have inner := ih (show depth < m + 1 by omega)
    rw [List.replicate_succ, List.cons_append] at inner
    have start := skipBlank_of_not_blank (c := '[') rfl (List.replicate m '[' ++ rest)
    rw [List.replicate_succ, List.cons_append, List.replicate_succ, List.cons_append, readValue,
      readArray, start]
    change (readItems (readValue depth) _ ('[' :: _)).map _ = _
    rw [readItems, inner]
    rfl

theorem overruns_nested {n : Nat} (deep : depth < n) (rest : Text) :
    Overruns depth (List.replicate n '[' ++ rest) := by
  obtain ⟨m, rfl⟩ : ∃ m, n = m + 1 := ⟨n - 1, by omega⟩
  have refused := readValue_nested depth deep rest
  rw [List.replicate_succ, List.cons_append] at refused ⊢
  refine .inr ⟨true, ?_⟩
  rw [read, skipBlank_of_not_blank rfl, refused]
  intro other same
  exact absurd (List.cons.inj same).1 (by decide)

theorem readDigits_of_digits {s : Text} (all : ∀ c ∈ s, (asciiDigit? c).isSome = true) :
    ∃ ds, readDigits s = (ds, []) ∧ ds.length = s.length := by
  induction s with
  | nil => exact ⟨[], rfl, rfl⟩
  | cons c s ih =>
    obtain ⟨d, digit⟩ := Option.isSome_iff_exists.mp (all c List.mem_cons_self)
    obtain ⟨ds, read, length⟩ := ih fun c member => all c (List.mem_cons_of_mem _ member)
    exact ⟨d :: ds, by simp only [readDigits, digit, read], by simp [length]⟩

theorem readConstant?_of_digit {c : Char} (digit : (asciiDigit? c).isSome = true) (s : Text) :
    readConstant? (c :: s) = none := by
  have other (t : Char) (letter : asciiDigit? t = none) : t ≠ c := by
    rintro rfl
    simp [letter] at digit
  have dropped (t : Char) (name : Text) (letter : asciiDigit? t = none) :
      Text.dropPrefix? (t :: name) (c :: s) = none := by
    rw [Text.dropPrefix?, if_neg (other t letter)]
  refine List.findSome?_eq_none_iff.mpr fun named listed => ?_
  simp only [constants, List.mem_cons, List.not_mem_nil, or_false] at listed
  rcases listed with rfl | rfl | rfl | rfl | rfl | rfl
  all_goals exact Option.map_eq_none_iff.mpr (dropped _ _ rfl)

section LongInteger

variable {c : Char} {s : Text} {d : Nat} (leading : asciiDigit? c = some (d + 1))
  (all : ∀ c ∈ s, (asciiDigit? c).isSome = true) (long : integerDigitLimit < (c :: s).length)

include leading all long

theorem readNumber_of_long : readNumber (c :: s) = .error (.integerTooLong (c :: s).length) := by
  obtain ⟨ds, rest, length⟩ := readDigits_of_digits all
  have digits : readDigits (c :: s) = ((d + 1) :: ds, []) := by
    simp only [readDigits, leading, rest]
  have count : ((d + 1) :: ds).length = (c :: s).length := by simp [length]
  unfold readNumber
  split
  rename_i negative unsigned sign
  obtain rfl : unsigned = c :: s := by
    split at sign
    · rename_i minus
      cases minus
      cases leading
    · exact (Prod.mk.inj sign).2.symm
  simp only [digits, readFraction?, readExponent?, Option.getD_none, Option.isSome_none,
    Bool.or_self, Bool.false_eq_true, if_false, count, gt_iff_lt, if_pos long]

theorem readLeaf_of_long : readLeaf (c :: s) = .error (.integerTooLong (c :: s).length) := by
  unfold readLeaf
  split
  · rename_i quote
    cases quote
    cases leading
  · rw [readConstant?_of_digit (by simp [leading]), readNumber_of_long leading all long]

theorem readValue_of_long (depth : Nat) :
    readValue depth (c :: s) = .error (.integerTooLong (c :: s).length) := by
  unfold readValue
  split
  all_goals
    split
    · rename_i brace
      cases brace
      cases leading
    · rename_i bracket
      cases bracket
      cases leading
    · exact readLeaf_of_long leading all long

theorem overruns_digits : Overruns depth (c :: s) := by
  have visible : isBlank c = false := by
    by_contra blank
    simp only [isBlank, Bool.not_eq_false, Bool.or_eq_true, beq_iff_eq] at blank
    obtain ((rfl | rfl) | rfl) | rfl := blank
    all_goals cases leading
  refine .inl ⟨(c :: s).length, ?_⟩
  rw [read, skipBlank_of_not_blank visible, readValue_of_long leading all long]
  rintro rest mark
  cases mark
  cases leading

end LongInteger

end Overruns

end Folio.Json
