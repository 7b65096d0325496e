import Folio.Text.Line
import Folio.Text.Utf8
import Mathlib.Tactic.SplitIfs

/-! What is written as UTF-8 is read back, and nothing else is read. A text without carriage returns
keeps its lines. -/
namespace Folio.Text

namespace Utf8

theorem toNat_byte {n : Nat} (small : n < 0x100) : n.toUInt8.toNat = n := by
  simpa using Nat.mod_eq_of_lt small

theorem continuation_byte {low high n : Nat} (byte : n < 0x100) (above : low ≤ n) (below : n ≤ high)
    (taken value need : Nat) (bytes : Bytes) :
    continuation low high taken value (need + 1) (n.toUInt8 :: bytes) =
      continuation 0x80 0xbf (taken + 1) (value * 0x40 + n % 0x40) need bytes := by
  simp only [continuation, toNat_byte byte, if_pos (And.intro above below)]

/-- The code points of characters leave out the surrogates. -/
theorem toNat_scalar (c : Char) :
    c.toNat < 0xd800 ∨ (0xe000 ≤ c.toNat ∧ c.toNat < 0x110000) := by
  have valid := c.valid
  simp only [UInt32.isValidChar, Nat.isValidChar] at valid
  change c.toNat < 0xd800 ∨ (0xdfff < c.toNat ∧ c.toNat < 0x110000) at valid
  omega

section Sequence

variable {n : Nat} (bytes : Bytes)

theorem sequence_one (small : n < 0x80) : sequence n.toUInt8 bytes = .ok (n, 0) := by
  simp only [sequence, toNat_byte (show n < 0x100 by omega), if_pos small]

theorem sequence_two (above : 0x80 ≤ n) (small : n < 0x800) :
    sequence (0xc0 + n / 0x40).toUInt8 ((0x80 + n % 0x40).toUInt8 :: bytes) = .ok (n, 1) := by
  simp only [sequence, toNat_byte (show 0xc0 + n / 0x40 < 0x100 by omega)]
  rw [if_neg (by omega), if_neg (by omega), if_pos (by omega),
    continuation_byte (by omega) (by omega) (by omega)]
  simp only [continuation, Except.map, Except.ok.injEq, Prod.mk.injEq, and_true]
  omega

theorem sequence_three (above : 0x800 ≤ n) (small : n < 0x10000)
    (scalar : n < 0xd800 ∨ 0xe000 ≤ n) :
    sequence (0xe0 + n / 0x1000).toUInt8
      ((0x80 + n / 0x40 % 0x40).toUInt8 :: (0x80 + n % 0x40).toUInt8 :: bytes) = .ok (n, 2) := by
  simp only [sequence, toNat_byte (show 0xe0 + n / 0x1000 < 0x100 by omega)]
  -- the second byte has bounds of its own where the lead allows shorter forms or surrogates
  rw [if_neg (by omega), if_neg (by omega), if_neg (by omega), if_pos (by omega),
    continuation_byte (by omega) (by split_ifs <;> omega) (by split_ifs <;> omega),
    continuation_byte (by omega) (by omega) (by omega)]
  simp only [continuation, Except.map, Except.ok.injEq, Prod.mk.injEq, and_true]
  omega

theorem sequence_four (above : 0x10000 ≤ n) (small : n < 0x110000) :
    sequence (0xf0 + n / 0x40000).toUInt8
      ((0x80 + n / 0x1000 % 0x40).toUInt8 :: (0x80 + n / 0x40 % 0x40).toUInt8 ::
        (0x80 + n % 0x40).toUInt8 :: bytes) = .ok (n, 3) := by
  simp only [sequence, toNat_byte (show 0xf0 + n / 0x40000 < 0x100 by omega)]
  rw [if_neg (by omega), if_neg (by omega), if_neg (by omega), if_neg (by omega),
    if_pos (by omega),
    continuation_byte (by omega) (by split_ifs <;> omega) (by split_ifs <;> omega),
    continuation_byte (by omega) (by omega) (by omega),
    continuation_byte (by omega) (by omega) (by omega)]
  simp only [continuation, Except.map, Except.ok.injEq, Prod.mk.injEq, and_true]
  omega

end Sequence

theorem decodeFrom_sequence {lead : UInt8} {code : Nat} (trail : Bytes) {bytes : Bytes}
    (read : sequence lead (trail ++ bytes) = .ok (code, trail.length)) (offset : Nat) :
    decodeFrom offset (lead :: (trail ++ bytes)) =
      (decodeFrom (offset + 1 + trail.length) bytes).map (Char.ofNat code :: ·) := by
  rw [decodeFrom, read]
  simp only [List.drop_left]

theorem decodeFrom_encodeChar (c : Char) (offset : Nat) (bytes : Bytes) :
    ∃ next, decodeFrom offset (encodeChar c ++ bytes) = (decodeFrom next bytes).map (c :: ·) := by
  have scalar := toNat_scalar c
  have named : Char.ofNat c.toNat = c := Char.ofNat_toNat c
  unfold encodeChar
  dsimp only
  split_ifs with one two three
  · have read := decodeFrom_sequence [] (sequence_one bytes one) offset
    exact ⟨_, named ▸ read⟩
  · have read := decodeFrom_sequence [_] (sequence_two bytes (by omega) two) offset
    exact ⟨_, named ▸ read⟩
  · have read := decodeFrom_sequence [_, _]
      (sequence_three bytes (by omega) three (by omega)) offset
    exact ⟨_, named ▸ read⟩
  · have read := decodeFrom_sequence [_, _, _]
      (sequence_four bytes (Nat.le_of_not_lt three) (by omega)) offset
    exact ⟨_, named ▸ read⟩

theorem decodeFrom_encode (s : Text) (offset : Nat) : decodeFrom offset (encode s) = .ok s := by
  induction s generalizing offset with
  | nil => simp [encode, decodeFrom]
  | cons c s ih =>
    obtain ⟨next, read⟩ := decodeFrom_encodeChar c offset (encode s)
    calc decodeFrom offset (encode (c :: s))
      _ = decodeFrom offset (encodeChar c ++ encode s) := by simp only [encode, List.flatMap_cons]
      _ = (decodeFrom next (encode s)).map (c :: ·) := read
      _ = .ok (c :: s) := by rw [ih]; rfl

/-- Every text is read back from its bytes. -/
@[simp] theorem decode_encode (s : Text) : decode (encode s) = .ok s := decodeFrom_encode s 0

section Inversion

theorem toNat_ofNat {n : Nat} (scalar : n < 0xd800 ∨ (0xe000 ≤ n ∧ n < 0x110000)) :
    (Char.ofNat n).toNat = n := by
  have valid : n.isValidChar := by
    simp only [Nat.isValidChar]
    omega
  rw [Char.ofNat, dif_pos valid]
  rfl

theorem toUInt8_eq {n : Nat} {b : UInt8} (same : n = b.toNat) : n.toUInt8 = b := by
  rw [same]
  exact UInt8.ofNat_toNat

theorem continuation_eq_ok {low high taken value need n : Nat} {bytes : Bytes}
    (read : continuation low high taken value (need + 1) bytes = .ok n) :
    ∃ b rest, bytes = b :: rest ∧ low ≤ b.toNat ∧ b.toNat ≤ high ∧
      continuation 0x80 0xbf (taken + 1) (value * 0x40 + b.toNat % 0x40) need rest = .ok n := by
  cases bytes with
  | nil => cases read
  | cons b rest =>
    simp only [continuation] at read
    split at read
    · rename_i bounds
      exact ⟨b, rest, rfl, bounds.1, bounds.2, read⟩
    · cases read

theorem continuation_zero {low high taken value n : Nat} {bytes : Bytes}
    (read : continuation low high taken value 0 bytes = .ok n) : n = value := by
  cases read
  rfl

theorem reading_eq_ok {low high value need code used : Nat} {bytes : Bytes}
    (read : (continuation low high 1 value need bytes).map (fun n => (n, need)) =
      .ok (code, used)) :
    continuation low high 1 value need bytes = .ok code ∧ used = need := by
  cases continued : continuation low high 1 value need bytes with
  | error e =>
    rw [continued] at read
    cases read
  | ok n =>
    rw [continued] at read
    cases read
    exact ⟨rfl, rfl⟩

section Trails

variable {lead : UInt8} {bytes : Bytes} {code : Nat}

theorem encodeChar_of_two (above : 0xc2 ≤ lead.toNat) (below : lead.toNat < 0xe0)
    (read : continuation 0x80 0xbf 1 (lead.toNat % 0x20) 1 bytes = .ok code) :
    lead :: bytes = encodeChar (Char.ofNat code) ++ bytes.drop 1 := by
  obtain ⟨b₁, rest, rfl, above₁, below₁, done⟩ := continuation_eq_ok read
  obtain rfl := continuation_zero done
  have scalar := toNat_ofNat (n := lead.toNat % 0x20 * 0x40 + b₁.toNat % 0x40) (by omega)
  simp only [encodeChar, scalar]
  rw [if_neg (by omega), if_pos (by omega), toUInt8_eq (b := lead) (by omega),
    toUInt8_eq (b := b₁) (by omega)]
  rfl

theorem encodeChar_of_three (above : 0xe0 ≤ lead.toNat) (below : lead.toNat < 0xf0)
    (read : continuation (if lead.toNat = 0xe0 then 0xa0 else 0x80)
      (if lead.toNat = 0xed then 0x9f else 0xbf) 1 (lead.toNat % 0x10) 2 bytes = .ok code) :
    lead :: bytes = encodeChar (Char.ofNat code) ++ bytes.drop 2 := by
  obtain ⟨b₁, rest, rfl, above₁, below₁, read⟩ := continuation_eq_ok read
  obtain ⟨b₂, rest, rfl, above₂, below₂, done⟩ := continuation_eq_ok read
  obtain rfl := continuation_zero done
  -- the bounds of the second byte leave out shorter forms and surrogates
  have bounds : 0x80 ≤ b₁.toNat ∧ b₁.toNat ≤ 0xbf ∧ (lead.toNat = 0xe0 → 0xa0 ≤ b₁.toNat) ∧
      (lead.toNat = 0xed → b₁.toNat ≤ 0x9f) := by
    split_ifs at above₁ below₁ <;> omega
  have scalar := toNat_ofNat
    (n := (lead.toNat % 0x10 * 0x40 + b₁.toNat % 0x40) * 0x40 + b₂.toNat % 0x40) (by omega)
  simp only [encodeChar, scalar]
  rw [if_neg (by omega), if_neg (by omega), if_pos (by omega), toUInt8_eq (b := lead) (by omega),
    toUInt8_eq (b := b₁) (by omega), toUInt8_eq (b := b₂) (by omega)]
  rfl

theorem encodeChar_of_four (above : 0xf0 ≤ lead.toNat) (below : lead.toNat < 0xf5)
    (read : continuation (if lead.toNat = 0xf0 then 0x90 else 0x80)
      (if lead.toNat = 0xf4 then 0x8f else 0xbf) 1 (lead.toNat % 0x08) 3 bytes = .ok code) :
    lead :: bytes = encodeChar (Char.ofNat code) ++ bytes.drop 3 := by
  obtain ⟨b₁, rest, rfl, above₁, below₁, read⟩ := continuation_eq_ok read
  obtain ⟨b₂, rest, rfl, above₂, below₂, read⟩ := continuation_eq_ok read
  obtain ⟨b₃, rest, rfl, above₃, below₃, done⟩ := continuation_eq_ok read
  obtain rfl := continuation_zero done
  have bounds : 0x80 ≤ b₁.toNat ∧ b₁.toNat ≤ 0xbf ∧ (lead.toNat = 0xf0 → 0x90 ≤ b₁.toNat) ∧
      (lead.toNat = 0xf4 → b₁.toNat ≤ 0x8f) := by
    split_ifs at above₁ below₁ <;> omega
  have scalar := toNat_ofNat
    (n := ((lead.toNat % 0x08 * 0x40 + b₁.toNat % 0x40) * 0x40 + b₂.toNat % 0x40) * 0x40 +
      b₃.toNat % 0x40) (by omega)
  simp only [encodeChar, scalar]
  rw [if_neg (by omega), if_neg (by omega), if_neg (by omega), toUInt8_eq (b := lead) (by omega),
    toUInt8_eq (b := b₁) (by omega), toUInt8_eq (b := b₂) (by omega),
    toUInt8_eq (b := b₃) (by omega)]
  rfl

end Trails

/-- A sequence that is read is the encoding of its character. -/
theorem encodeChar_of_sequence {lead : UInt8} {bytes : Bytes} {code used : Nat}
    (read : sequence lead bytes = .ok (code, used)) :
    lead :: bytes = encodeChar (Char.ofNat code) ++ bytes.drop used := by
  unfold sequence at read
  dsimp only at read
  by_cases one : lead.toNat < 0x80
  · rw [if_pos one] at read
    cases read
    have scalar := toNat_ofNat (show lead.toNat < 0xd800 ∨ _ by omega)
    simp only [encodeChar, scalar, if_pos one, toUInt8_eq rfl]
    rfl
  rw [if_neg one] at read
  by_cases low : lead.toNat < 0xc2
  · rw [if_pos low] at read
    cases read
  rw [if_neg low] at read
  by_cases two : lead.toNat < 0xe0
  · rw [if_pos two] at read
    obtain ⟨continued, rfl⟩ := reading_eq_ok read
    exact encodeChar_of_two (by omega) two continued
  rw [if_neg two] at read
  by_cases three : lead.toNat < 0xf0
  · rw [if_pos three] at read
    obtain ⟨continued, rfl⟩ := reading_eq_ok read
    exact encodeChar_of_three (by omega) three continued
  rw [if_neg three] at read
  by_cases four : lead.toNat < 0xf5
  · rw [if_pos four] at read
    obtain ⟨continued, rfl⟩ := reading_eq_ok read
    exact encodeChar_of_four (by omega) four continued
  · rw [if_neg four] at read
    cases read

theorem encode_of_decodeFrom {offset : Nat} {bytes : Bytes} {s : Text}
    (read : decodeFrom offset bytes = .ok s) : bytes = encode s := by
  induction offset, bytes using decodeFrom.induct generalizing s with
  | case1 offset =>
    rw [decodeFrom] at read
    cases read
    rfl
  | case2 offset lead tail length reason failed =>
    rw [decodeFrom, failed] at read
    cases read
  | case3 offset lead tail code used found ih =>
    rw [decodeFrom, found] at read
    cases rest : decodeFrom (offset + 1 + used) (tail.drop used) with
    | error fault => simp [rest, Except.map] at read
    | ok t =>
      simp only [rest, Except.map, Except.ok.injEq] at read
      subst read
      rw [encodeChar_of_sequence found, ih rest, encode, encode, List.flatMap_cons]

/-- Bytes are read exactly if they are the encoding of a text, as that text. -/
theorem decode_eq_ok_iff {bytes : Bytes} {s : Text} : decode bytes = .ok s ↔ bytes = encode s := by
  constructor
  · exact encode_of_decodeFrom
  · rintro rfl
    exact decode_encode s

end Inversion

end Utf8

theorem universalNewlines_eq_self {s : Text} (free : '\r' ∉ s) : universalNewlines s = s := by
  fun_induction universalNewlines s with
  | case1 => rfl
  | case2 s ih => exact absurd List.mem_cons_self free
  | case3 c s ordinary ih =>
    have other : c ≠ '\r' := fun same => free (same ▸ List.mem_cons_self)
    rw [if_neg other, ih fun later => free (List.mem_cons_of_mem c later)]

end Folio.Text
