import Switchboard.Unicode.CompositionTable

/-!
# Composed normal form

A character with marks can be written in one code point or in several. The composed normal form
(NFC) writes it in as few as possible: characters are taken apart, marks are put into the order of
their combining classes, and what can be composed is composed again. Syllables of Hangul are
composed by arithmetic.
-/

namespace Switchboard.Unicode

/-- The combining class of a code point. -/
def combiningClass (n : Nat) : Nat :=
  combining.number n

/-- A syllable of Hangul taken apart. -/
def splitSyllable? (n : Nat) : Option (List Nat) :=
  if 0xAC00 ≤ n ∧ n < 0xAC00 + 11172 then
    let i := n - 0xAC00
    let head := [0x1100 + i / 588, 0x1161 + i % 588 / 28]
    some (if i % 28 = 0 then head else head ++ [0x11A7 + i % 28])
  else none

/-- A code point taken apart, and what it gives again, down to `depth` levels. -/
def decompose : (depth : Nat) → Nat → List Nat
  | 0, n => [n]
  | depth + 1, n =>
    match splitSyllable? n with
    | some ns => ns
    | none =>
      match decompositions.row? n with
      | some r => r.points.flatMap (decompose depth)
      | none => [n]

/-- No character of the table has to be taken apart more often. -/
def decompositionDepth : Nat := 4

/-- Puts a code point before others, behind the marks of lower classes. -/
def insertMark (n : Nat) : List Nat → List Nat
  | [] => [n]
  | m :: ms =>
    if 0 < combiningClass m ∧ combiningClass m < combiningClass n then m :: insertMark n ms
    else n :: m :: ms

/-- **The marks in order**: between characters of class zero by class, and in a class as written. -/
def orderMarks : List Nat → List Nat
  | [] => []
  | n :: ns => insertMark n (orderMarks ns)

/-- The syllable of Hangul that two code points make. -/
def joinSyllable? (a b : Nat) : Option Nat :=
  if 0x1100 ≤ a ∧ a < 0x1113 ∧ 0x1161 ≤ b ∧ b < 0x1176 then
    some (0xAC00 + ((a - 0x1100) * 21 + (b - 0x1161)) * 28)
  else if 0xAC00 ≤ a ∧ a < 0xAC00 + 11172 ∧ (a - 0xAC00) % 28 = 0 ∧ 0x11A7 < b ∧ b < 0x11C3 then
    some (a + (b - 0x11A7))
  else none

/-- The code point that two code points make. -/
def compose? (a b : Nat) : Option Nat :=
  (joinSyllable? a b).or ((decompositions.find? fun r => r.points = [a, b]).map Row.first)

/-- Composes code points with the character of class zero before them; `marks` stand between them
and `last` is the class of the last mark. -/
def composeOnto (base : Nat) (marks : List Nat) (last : Nat) : List Nat → List Nat
  | [] => base :: marks
  | n :: ns =>
    let joined := if marks = [] ∨ last < combiningClass n then compose? base n else none
    match joined with
    | some m => composeOnto m marks last ns
    | none =>
      if combiningClass n = 0 then base :: marks ++ composeOnto n [] 0 ns
      else composeOnto base (marks ++ [n]) (combiningClass n) ns

/-- Composes code points; marks at the start have nothing to go onto. -/
def composeAll : List Nat → List Nat
  | [] => []
  | n :: ns => if combiningClass n = 0 then composeOnto n [] 0 ns else n :: composeAll ns

/-- **The composed normal form.** -/
def compose (ns : List Nat) : List Nat :=
  composeAll (orderMarks (ns.flatMap (decompose decompositionDepth)))

end Switchboard.Unicode
