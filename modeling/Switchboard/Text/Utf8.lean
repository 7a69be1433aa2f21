/-!
# UTF-8, read leniently

Percent-decoding a path or a query leaves octets that need not be UTF-8. They are read the way the
standard decoder for the web reads them: each **maximal invalid part** becomes one replacement
character. A lead octet says how many continuation octets it owes and which values the first of them
may take; an octet outside that range ends the broken sequence, costs one replacement character, and
is then read again as the start of a character of its own.
-/

namespace Switchboard.Utf8

/-- The octets of a text. -/
def encode (cs : List Char) : List UInt8 :=
  cs.flatMap String.utf8EncodeChar

/-- The character that stands for octets that are no character. -/
def replacement : Char := '\uFFFD'

/-- **A character that has begun**: what is known of it before its last octet. -/
structure Pending where
  /-- How many octets are still owed after the next one. -/
  owed : Nat
  /-- The value read so far. -/
  value : Nat
  /-- The least value the next octet may have. -/
  low : UInt8 := 0x80
  /-- The greatest value the next octet may have. -/
  high : UInt8 := 0xBF

/-- What one octet is at the start of a character. -/
inductive Lead where
  /-- A whole character. -/
  | whole (c : Char)
  /-- The start of a longer one. -/
  | start (p : Pending)
  /-- Nothing that can start a character. -/
  | invalid

/-- The role of an octet at the start of a character. -/
def lead (b : UInt8) : Lead :=
  if b < 0x80 then .whole (Char.ofNat b.toNat)
  else if b < 0xC2 then .invalid
  else if b < 0xE0 then .start ⟨0, b.toNat - 0xC0, 0x80, 0xBF⟩
  else if b = 0xE0 then .start ⟨1, 0, 0xA0, 0xBF⟩
  else if b = 0xED then .start ⟨1, 0xD, 0x80, 0x9F⟩
  else if b < 0xF0 then .start ⟨1, b.toNat - 0xE0, 0x80, 0xBF⟩
  else if b = 0xF0 then .start ⟨2, 0, 0x90, 0xBF⟩
  else if b < 0xF4 then .start ⟨2, b.toNat - 0xF0, 0x80, 0xBF⟩
  else if b = 0xF4 then .start ⟨2, 4, 0x80, 0x8F⟩
  else .invalid

/-- A begun character after one more octet in its range. -/
def Pending.next (p : Pending) (b : UInt8) : Lead :=
  let value := p.value * 64 + (b.toNat - 0x80)
  match p.owed with
  | 0 => .whole (Char.ofNat value)
  | n + 1 => .start ⟨n, value, 0x80, 0xBF⟩

/-- Reads octets from inside a begun character, if there is one, or from between characters. -/
def decodeFrom : Option Pending → List UInt8 → List Char
  | none, [] => []
  | some _, [] => [replacement]
  | none, b :: bs =>
    match lead b with
    | .whole c => c :: decodeFrom none bs
    | .start p => decodeFrom (some p) bs
    | .invalid => replacement :: decodeFrom none bs
  | some p, b :: bs =>
    if p.low ≤ b ∧ b ≤ p.high then
      match p.next b with
      | .whole c => c :: decodeFrom none bs
      | .start p => decodeFrom (some p) bs
      | .invalid => replacement :: decodeFrom none bs
    else
      match lead b with
      | .whole c => replacement :: c :: decodeFrom none bs
      | .start p => replacement :: decodeFrom (some p) bs
      | .invalid => replacement :: replacement :: decodeFrom none bs

/-- **Lenient reading**: the characters of the octets, with one replacement character for each
maximal part that is not UTF-8. -/
def decodeLossy (bs : List UInt8) : List Char :=
  decodeFrom none bs

end Switchboard.Utf8
