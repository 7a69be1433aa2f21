import Switchboard.Text.Utf8

/-!
# Percent-encoding

An octet is written `%` and two hexadecimal digits. Reading takes every such triple for its octet
and every other octet for itself, so that a `%` without two digits after it stays a `%`; the octets
are then read as UTF-8, leniently. Writing replaces the octets of the characters that a given place
does not allow.
-/

namespace Switchboard.Percent

/-- The value of a hexadecimal digit, given as an octet. -/
def hexValue? (b : UInt8) : Option UInt8 :=
  if 0x30 ≤ b ∧ b ≤ 0x39 then some (b - 0x30)
  else if 0x41 ≤ b ∧ b ≤ 0x46 then some (b - 0x37)
  else if 0x61 ≤ b ∧ b ≤ 0x66 then some (b - 0x57)
  else none

/-- The octet that two hexadecimal digits stand for. -/
def octet? (a b : UInt8) : Option UInt8 :=
  match hexValue? a, hexValue? b with
  | some x, some y => some (x * 16 + y)
  | _, _ => none

/-- **Undoing the escapes**: each `%` with two hexadecimal digits becomes the octet they stand
for. -/
def unescape : List UInt8 → List UInt8
  | [] => []
  | b :: a :: c :: bs =>
    match octet? a c with
    | some o => if b = 0x25 then o :: unescape bs else b :: unescape (a :: c :: bs)
    | none => b :: unescape (a :: c :: bs)
  | b :: bs => b :: unescape bs

/-- **Percent-decoding a text**, leniently. -/
def decode (cs : List Char) : List Char :=
  Utf8.decodeLossy (unescape (Utf8.encode cs))

/-- The upper-case hexadecimal digit of a value below 16. -/
def hexDigit (n : Nat) : Char :=
  if n < 10 then Char.ofNat (0x30 + n) else Char.ofNat (0x37 + n)

/-- The three characters that stand for an octet. -/
def escape (b : UInt8) : List Char :=
  ['%', hexDigit (b.toNat / 16), hexDigit (b.toNat % 16)]

/-- **Percent-encoding a text**: the characters that are not allowed, and all that are not ASCII,
are written as the escapes of their octets. -/
def encode (allowed : Char → Bool) (cs : List Char) : List Char :=
  cs.flatMap fun c =>
    if c.toNat < 0x80 && allowed c then [c] else (String.utf8EncodeChar c).flatMap escape

/-- Control characters: those below the space, and delete. -/
def isControl (c : Char) : Bool :=
  c.toNat < 0x20 || c.toNat == 0x7F

end Switchboard.Percent
