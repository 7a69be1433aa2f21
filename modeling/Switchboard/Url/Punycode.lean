/-!
# Punycode

A label with characters outside ASCII is written in ASCII by Punycode (RFC 3492): its ASCII
characters first, then, after a hyphen, one variable-length number for each other character, in
order of code points. A number says how far to walk through all places and code points from the last
insertion. Its digits are in base 36, and what counts as its last digit adapts to the numbers before
it.

None of the loops needs a bound given from outside. Writing a number divides what is left of it,
adapting divides too, the outer loop runs over the code points that occur, and reading consumes one
digit at a time. Numbers that are read must fit into 32 bits.
-/

namespace Switchboard.Punycode

/-- The digit of a value below 36: letters, then decimal digits. -/
def digitChar (d : Nat) : Char :=
  if d < 26 then Char.ofNat (0x61 + d) else Char.ofNat (0x16 + d)

/-- The value of a digit, in either case. -/
def digitValue? (c : Char) : Option Nat :=
  if 'a' ≤ c ∧ c ≤ 'z' then some (c.toNat - 0x61)
  else if 'A' ≤ c ∧ c ≤ 'Z' then some (c.toNat - 0x41)
  else if '0' ≤ c ∧ c ≤ '9' then some (c.toNat - 0x16)
  else none

/-- The least value of a digit at place `k` that is not the last one of its number. -/
def threshold (k bias : Nat) : Nat :=
  if k ≤ bias then 1 else if bias + 26 ≤ k then 26 else k - bias

/-- A threshold lies between 1 and 26. -/
theorem threshold_bounds (k bias : Nat) : 1 ≤ threshold k bias ∧ threshold k bias ≤ 26 := by
  unfold threshold
  split <;> (try split) <;> omega

/-- Divides by 35 down to 455, and counts 36 for each division. -/
def shrink (delta k : Nat) : Nat × Nat :=
  if 455 < delta then shrink (delta / 35) (k + 36) else (delta, k)
termination_by delta
decreasing_by exact Nat.div_lt_self (by omega) (by omega)

/-- **The bias after a number**: `delta` was written, it made `count` characters, and it was the
first number or not. -/
def adapt (delta count : Nat) (first : Bool) : Nat :=
  let halved := if first then delta / 700 else delta / 2
  let (rest, k) := shrink (halved + halved / count) 0
  k + 36 * rest / (rest + 38)

/-- The digits of a number, from place `k` on. -/
def numberDigits (bias k n : Nat) : List Char :=
  let t := threshold k bias
  if n < t then [digitChar n]
  else digitChar (t + (n - t) % (36 - t)) :: numberDigits bias (k + 36) ((n - t) / (36 - t))
termination_by n
decreasing_by
  have h := threshold_bounds k bias
  calc (n - threshold k bias) / (36 - threshold k bias)
      ≤ n - threshold k bias := Nat.div_le_self _ _
    _ < n := by omega

/-- What writing keeps between characters. -/
structure Writing where
  /-- The digits written so far. -/
  out : List Char
  /-- How far the walk went since the last number. -/
  delta : Nat
  /-- The bias for the next number. -/
  bias : Nat
  /-- How many characters are written. -/
  count : Nat

/-- Writing looks at one character of the label while the walk is at code point `m`. -/
def Writing.see (first m : Nat) (w : Writing) (c : Char) : Writing :=
  if c.toNat < m then { w with delta := w.delta + 1 }
  else if c.toNat = m then
    { out := w.out ++ numberDigits w.bias 36 w.delta, delta := 0,
      bias := adapt w.delta (w.count + 1) (w.count = first), count := w.count + 1 }
  else w

/-- Writing goes through the code points that occur, ascending, the walk being at `n`. -/
def Writing.run (label : List Char) (first : Nat) : (n : Nat) → List Nat → Writing → Writing
  | _, [], w => w
  | n, m :: ms, w =>
    let w := label.foldl (Writing.see first m)
      { w with delta := w.delta + (m - n) * (w.count + 1) }
    Writing.run label first (m + 1) ms { w with delta := w.delta + 1 }

/-- The code points outside ASCII that occur in a label, ascending. -/
def foreign (label : List Char) : List Nat :=
  (((label.map Char.toNat).filter (0x80 ≤ ·)).mergeSort).eraseDups

/-- **Writing a label in ASCII.** -/
def encode (label : List Char) : List Char :=
  let basic := label.filter fun c => c.toNat < 0x80
  let written := Writing.run label basic.length 0x80 (foreign label) ⟨[], 0, 72, basic.length⟩
  basic ++ (if basic = [] then [] else ['-']) ++ written.out

/-- What reading keeps between digits. -/
structure Reading where
  /-- The characters read so far. -/
  out : List Char
  /-- The code point of the walk. -/
  point : Nat := 0x80
  /-- The place of the walk. -/
  place : Nat := 0
  /-- The bias of the current number. -/
  bias : Nat := 72
  /-- Where the walk was before the current number. -/
  before : Nat := 0
  /-- The weight of the next digit. -/
  weight : Nat := 1
  /-- The place of the next digit in its number. -/
  k : Nat := 36

/-- A character of the code point, unless it is none or past the end. -/
def charOf? (n : Nat) : Option Char :=
  if n < 0xD800 ∨ (0xDFFF < n ∧ n < 0x110000) then some (Char.ofNat n) else none

/-- The least number that does not fit into 32 bits. -/
def wordLimit : Nat := 0x100000000

/-- Reading takes one digit; the last digit of a number puts a character in its place. -/
def Reading.take (r : Reading) (d : Nat) : Option Reading :=
  let place := r.place + d * r.weight
  let t := threshold r.k r.bias
  let weight := r.weight * (36 - t)
  if wordLimit ≤ place then none
  else if d < t then
    let count := r.out.length + 1
    let point := r.point + place / count
    let spot := place % count
    (charOf? point).map fun c =>
      { out := r.out.insertIdx spot c, point, place := spot + 1,
        bias := adapt (place - r.before) count (r.before = 0), before := spot + 1 }
  else if wordLimit ≤ weight then none
  else some { r with place, weight, k := r.k + 36 }

/-- Reading goes through digits and must end between numbers. -/
def Reading.run : Reading → List Char → Option (List Char)
  | r, [] => if r.k = 36 then some r.out else none
  | r, c :: cs => ((digitValue? c).bind r.take).bind fun r => Reading.run r cs

/-- The text around its last hyphen. If nothing stands before one, all of it counts as after, since
writing puts no hyphen there. -/
def cutLastHyphen (cs : List Char) : List Char × List Char :=
  let after := (cs.reverse.takeWhile (· ≠ '-')).reverse
  let before := cs.take (cs.length - after.length - 1)
  if before = [] then ([], cs) else (before, after)

/-- **Reading a label written in ASCII**; nothing if it is no such label. -/
def decode? (cs : List Char) : Option (List Char) :=
  let (basic, digits) := cutLastHyphen cs
  if basic.all fun c => c.toNat < 0x80 then Reading.run { out := basic } digits else none

end Switchboard.Punycode
