import Folio.Decimal.Digits
import Folio.Text.Basic
import Folio.Text.Class

/-! UTF-8: the bytes of a text, and the text of bytes with an exact account of a failure. -/
namespace Folio.Text.Utf8

open Decimal (natText)

abbrev Bytes := List UInt8

def encodeChar (c : Char) : Bytes :=
  let n := c.toNat
  if n < 0x80 then [n.toUInt8]
  else if n < 0x800 then [(0xc0 + n / 0x40).toUInt8, (0x80 + n % 0x40).toUInt8]
  else if n < 0x10000 then
    [(0xe0 + n / 0x1000).toUInt8, (0x80 + n / 0x40 % 0x40).toUInt8, (0x80 + n % 0x40).toUInt8]
  else
    [(0xf0 + n / 0x40000).toUInt8, (0x80 + n / 0x1000 % 0x40).toUInt8,
      (0x80 + n / 0x40 % 0x40).toUInt8, (0x80 + n % 0x40).toUInt8]

def encode (s : Text) : Bytes := s.flatMap encodeChar

inductive Reason
  | invalidStart
  | invalidContinuation
  | unexpectedEnd
  deriving DecidableEq, Repr

/-- The bytes that form no character: where they start, how many they are, and the first of them. -/
structure Fault where
  offset : Nat
  length : Nat
  lead : UInt8
  reason : Reason
  deriving DecidableEq, Repr

def Reason.message : Reason → Text
  | .invalidStart => "invalid start byte".toList
  | .invalidContinuation => "invalid continuation byte".toList
  | .unexpectedEnd => "unexpected end of data".toList

def Fault.message (fault : Fault) : Text :=
  let place :=
    if fault.length = 1 then
      "byte 0x".toList ++ hex 2 fault.lead.toNat ++ " in position ".toList ++
        natText fault.offset
    else
      "bytes in position ".toList ++ natText fault.offset ++ ['-'] ++
        natText (fault.offset + fault.length - 1)
  "'utf-8' codec can't decode ".toList ++ place ++ ": ".toList ++ fault.reason.message

/-- Reads the bytes after the lead of a sequence. Only the second byte has bounds of its own;
an error tells how many bytes of the sequence are sound. -/
def continuation (low high taken value : Nat) : Nat → Bytes → Except (Nat × Reason) Nat
  | 0, _ => .ok value
  | _ + 1, [] => .error (taken, .unexpectedEnd)
  | need + 1, b :: bytes =>
    if low ≤ b.toNat ∧ b.toNat ≤ high then
      continuation 0x80 0xbf (taken + 1) (value * 0x40 + b.toNat % 0x40) need bytes
    else .error (taken, .invalidContinuation)

/-- The code point of a sequence and the number of bytes after its lead. -/
def sequence (lead : UInt8) (bytes : Bytes) : Except (Nat × Reason) (Nat × Nat) :=
  let b := lead.toNat
  let reading (low high value need : Nat) :=
    (continuation low high 1 value need bytes).map fun n => (n, need)
  if b < 0x80 then .ok (b, 0)
  else if b < 0xc2 then .error (1, .invalidStart)
  else if b < 0xe0 then reading 0x80 0xbf (b % 0x20) 1
  else if b < 0xf0 then
    reading (if b = 0xe0 then 0xa0 else 0x80) (if b = 0xed then 0x9f else 0xbf) (b % 0x10) 2
  else if b < 0xf5 then
    reading (if b = 0xf0 then 0x90 else 0x80) (if b = 0xf4 then 0x8f else 0xbf) (b % 0x08) 3
  else .error (1, .invalidStart)

def decodeFrom (offset : Nat) (bytes : Bytes) : Except Fault Text :=
  match bytes with
  | [] => .ok []
  | lead :: tail =>
    match sequence lead tail with
    | .error (length, reason) => .error ⟨offset, length, lead, reason⟩
    | .ok (code, used) =>
      (decodeFrom (offset + 1 + used) (tail.drop used)).map (Char.ofNat code :: ·)
termination_by bytes.length
decreasing_by simp only [List.length_drop, List.length_cons]; omega

/-- The text that bytes spell, or the first place where they spell none. -/
def decode (bytes : Bytes) : Except Fault Text := decodeFrom 0 bytes

end Folio.Text.Utf8
