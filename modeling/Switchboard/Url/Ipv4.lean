import Switchboard.Text.Fields

/-!
# IPv4 addresses

Two written forms are read. A **dotted quad** is four decimal numbers below 256 without leading
zeros. The **loose** form, which hosts of web addresses may take, has one to four numbers, each
decimal, octal after `0` or hexadecimal after `0x`; the last one fills all the octets that are left,
and one dot may follow it. Writing always gives the dotted quad.
-/

namespace Switchboard

/-- **An IPv4 address** as one 32-bit number. -/
structure Ipv4 where
  /-- The address, the first octet highest. -/
  value : UInt32
deriving DecidableEq, Repr

/-- The value of a digit, up to sixteen of them. -/
def digitValue? (c : Char) : Option Nat :=
  if '0' ≤ c ∧ c ≤ '9' then some (c.toNat - 0x30)
  else if 'a' ≤ c ∧ c ≤ 'f' then some (c.toNat - 0x57)
  else if 'A' ≤ c ∧ c ≤ 'F' then some (c.toNat - 0x37)
  else none

/-- The value of a text as digits of a base; nothing if a character is no digit of it. An empty text
counts as zero. -/
def digits? (base : Nat) (cs : List Char) : Option Nat :=
  cs.foldlM (fun n c => do
    let d ← digitValue? c
    if d < base then some (n * base + d) else none) 0

namespace Ipv4

/-- The octets of an address, first to last. -/
def octets (a : Ipv4) : List Nat :=
  let n := a.value.toNat
  [n / 0x1000000, n / 0x10000 % 0x100, n / 0x100 % 0x100, n % 0x100]

/-- The dotted quad of an address. -/
def display (a : Ipv4) : String :=
  String.intercalate "." (a.octets.map Nat.repr)

/-- An octet of a dotted quad: up to three digits, no leading zero, below 256. -/
def octet? (cs : List Char) : Option Nat :=
  if cs = [] ∨ 3 < cs.length ∨ (1 < cs.length ∧ cs.head? = some '0') then none
  else (digits? 10 cs).filter (· < 256)

/-- **Reading a dotted quad.** -/
def parseQuad? (cs : List Char) : Option Ipv4 :=
  match (Text.fields '.' cs).mapM octet? with
  | some [a, b, c, d] => some ⟨UInt32.ofNat (((a * 256 + b) * 256 + c) * 256 + d)⟩
  | _ => none

/-- A number of the loose form: decimal, octal after `0`, hexadecimal after `0x`. -/
def number? : List Char → Option Nat
  | [] => none
  | '0' :: 'x' :: cs => digits? 16 cs
  | '0' :: 'X' :: cs => digits? 16 cs
  | '0' :: c :: cs => digits? 8 (c :: cs)
  | cs => digits? 10 cs

/-- The dotted parts of a host, without the empty one after a final dot. -/
def parts (cs : List Char) : List (List Char) :=
  let fs := Text.fields '.' cs
  if fs.getLast? = some [] then fs.dropLast else fs

/-- **Whether a host ends in a number**, so that it must be an IPv4 address. -/
def endsInNumber (cs : List Char) : Bool :=
  match (parts cs).getLast? with
  | none => false
  | some last => last ≠ [] && (last.all Char.isDigit || (number? last).isSome)

/-- The value of numbers that fill an address: all but the last are octets. -/
def fill? : (room : Nat) → List Nat → Option Nat
  | _, [] => none
  | room, [n] => if n < 256 ^ room then some n else none
  | 0, _ :: _ :: _ => none
  | room + 1, n :: ns => if n < 256 then (fill? room ns).map (n * 256 ^ room + ·) else none

/-- **Reading the loose form.** -/
def parseLoose? (cs : List Char) : Option Ipv4 := do
  let ns ← (parts cs).mapM number?
  if 4 < ns.length then none
  else (fill? 4 ns).map fun n => ⟨UInt32.ofNat n⟩

end Ipv4

end Switchboard
