/-!
# Strict UTF-8

`Utf8.decode` reads bytes as text and refuses the first sequence that is not well formed. A
refusal (`Utf8.Fault`) covers the longest prefix of that sequence that could still have become a
character, so that its position and length are determined by the bytes alone.
-/

namespace VisualNovel.Utf8

/-- The bytes of a text. -/
def encode (text : List Char) : List UInt8 :=
  text.flatMap String.utf8EncodeChar

/-- Why a sequence of bytes is refused. -/
inductive Reason where
  | invalidStart
  | invalidContinuation
  | unexpectedEnd
deriving DecidableEq, Repr

/-- The refused bytes: where they start, how many they are, the first of them, and why. -/
structure Fault where
  position : Nat
  length : Nat
  first : UInt8
  reason : Reason
deriving DecidableEq, Repr

/-- A character of which some bytes are still to come. -/
structure Pending where
  start : Nat
  first : UInt8
  seen : Nat
  /-- The bits read so far. -/
  bits : Nat
  missing : Nat
  /-- The next byte lies between these. -/
  low : UInt8
  high : UInt8
deriving DecidableEq, Repr

/-- What a first byte from `0x80` up announces; the bounds on the second byte leave out overlong
forms, surrogates and code points that are too large. -/
def announce (position : Nat) (b : UInt8) : Option Pending :=
  let pending (bits missing : Nat) (low high : UInt8) : Option Pending :=
    some ⟨position, b, 1, bits, missing, low, high⟩
  if b < 0xc2 then none
  else if b < 0xe0 then pending (b.toNat - 0xc0) 1 0x80 0xbf
  else if b < 0xf0 then
    pending (b.toNat - 0xe0) 2 (if b = 0xe0 then 0xa0 else 0x80) (if b = 0xed then 0x9f else 0xbf)
  else if b < 0xf5 then
    pending (b.toNat - 0xf0) 3 (if b = 0xf0 then 0x90 else 0x80) (if b = 0xf4 then 0x8f else 0xbf)
  else none

/-- Reads the bytes from `position` on, in the middle of a character if one is pending. -/
def decodeFrom (position : Nat) : Option Pending → List UInt8 → Except Fault (List Char)
  | none, [] => .ok []
  | some p, [] => .error ⟨p.start, p.seen, p.first, .unexpectedEnd⟩
  | none, b :: rest =>
    if b < 0x80 then (decodeFrom (position + 1) none rest).map (Char.ofNat b.toNat :: ·)
    else match announce position b with
      | none => .error ⟨position, 1, b, .invalidStart⟩
      | some p => decodeFrom (position + 1) (some p) rest
  | some p, b :: rest =>
    if p.low ≤ b ∧ b ≤ p.high then
      let bits := p.bits * 64 + (b.toNat - 0x80)
      if p.missing = 1 then (decodeFrom (position + 1) none rest).map (Char.ofNat bits :: ·)
      else
        decodeFrom (position + 1)
          (some { p with seen := p.seen + 1, bits, missing := p.missing - 1, low := 0x80, high := 0xbf })
          rest
    else .error ⟨p.start, p.seen, p.first, .invalidContinuation⟩

/-- Reads bytes as text. -/
def decode (bytes : List UInt8) : Except Fault (List Char) :=
  decodeFrom 0 none bytes

/-- Turns every line end, `\r\n` and `\r` alike, into `\n`. -/
def unifyNewlines : List Char → List Char
  | [] => []
  | '\r' :: '\n' :: rest => '\n' :: unifyNewlines rest
  | '\r' :: rest => '\n' :: unifyNewlines rest
  | c :: rest => c :: unifyNewlines rest

end VisualNovel.Utf8
