import Switchboard.Toml.Text

/-!
# Numbers and moments of a TOML document

Whole numbers have a sign and decimal digits without a leading zero, or hexadecimal, octal or binary
digits after `0x`, `0o` or `0b`; they must fit into 64 bits. A float has a fraction, an exponent or
both, or is `inf` or `nan`; one that is too large for a double is refused. Underscores may stand
between digits.

A moment is a date, a time of day, or both with a `T` or a blank between them, then possibly with an
offset; each of its parts must be in range, a day in its month.
-/

namespace Switchboard.Toml

/-- Digits with single underscores between them: the digits alone, and the rest. -/
def digitRun (isDigit : Char → Bool) : List Char → List Char × List Char
  | a :: '_' :: b :: cs =>
    if isDigit a ∧ isDigit b then
      let (ds, rest) := digitRun isDigit (b :: cs)
      (a :: ds, rest)
    else if isDigit a then ([a], '_' :: b :: cs) else ([], a :: '_' :: b :: cs)
  | a :: cs =>
    if isDigit a then
      let (ds, rest) := digitRun isDigit cs
      (a :: ds, rest)
    else ([], a :: cs)
  | [] => ([], [])

/-- At least one decimal digit, with underscores between them. -/
def decimals (cs : List Char) : Read (List Char) :=
  match digitRun Char.isDigit cs with
  | ([], _) => none
  | read => some read

/-- A sign: whether it is a minus, and the rest. -/
def signed : List Char → Bool × List Char
  | '+' :: cs => (false, cs)
  | '-' :: cs => (true, cs)
  | cs => (false, cs)

/-- The digits of a whole number without leading zeros. -/
def wholeDigits : List Char → Read (List Char)
  | '0' :: cs => some (['0'], cs)
  | cs => decimals cs

/-- The value of digits that are known to be digits of the base. -/
def valueOf (base : Nat) (ds : List Char) : Nat :=
  (digits? base ds).getD 0

/-- Whether a number fits into 64 bits. -/
def fitsInt64 (n : Int) : Bool :=
  -0x8000000000000000 ≤ n && n < 0x8000000000000000

/-- A number of at least one digit of a base that is a power of two. -/
def baseNumber (base : Nat) (cs : List Char) : Read Int :=
  match digitRun (fun c => (digitValue? c).any (· < base)) cs with
  | ([], _) => none
  | (ds, rest) => if fitsInt64 (valueOf base ds) then some (valueOf base ds, rest) else none

/-- **Reading a whole number.** -/
def integer (cs : List Char) : Read Int :=
  match cs with
  | '0' :: 'x' :: cs => baseNumber 16 cs
  | '0' :: 'o' :: cs => baseNumber 8 cs
  | '0' :: 'b' :: cs => baseNumber 2 cs
  | cs =>
    let (minus, afterSign) := signed cs
    match wholeDigits afterSign with
    | none => none
    | some (ds, rest) =>
      let n : Int := if minus then -(valueOf 10 ds : Int) else valueOf 10 ds
      if fitsInt64 n then some (n, rest) else none

/-! ## Floats -/

/-- An exponent, if one stands there: its value and the rest. -/
def exponent? : List Char → Read Int
  | c :: cs =>
    if c = 'e' ∨ c = 'E' then
      let (minus, afterSign) := signed cs
      (decimals afterSign).map fun p =>
        (if minus then -(valueOf 10 p.1 : Int) else valueOf 10 p.1, p.2)
    else none
  | [] => none

/-- A fraction, if one stands there: its digits and the rest. -/
def fraction? : List Char → Read (List Char)
  | '.' :: cs => decimals cs
  | _ => none

/-- The digits before the point of a number, which is its digits times a power of ten. -/
def wholePart (ds : List Char) (power : Int) : List Char :=
  if 0 ≤ power then ds ++ List.replicate power.toNat '0'
  else ds.take (ds.length - (-power).toNat)

/-- The least whole number that is rounded up past the greatest double. -/
def doubleBound : Nat := 1 <<< 1024 - 1 <<< 970

/-- Whether a number, its digits times a power of ten, is rounded up past the greatest double. How
many digits stand before the point settles all but the close cases. -/
def overflows (ds : List Char) (power : Int) : Bool :=
  let size := ((ds.dropWhile (· = '0')).length : Int) + power
  if ds.all (· = '0') ∨ size < 300 then false
  else if 320 < size then true
  else doubleBound ≤ valueOf 10 (wholePart ds power)

/-- Whether `inf` or `nan` stands there, and the rest. -/
def special? : List Char → Option (List Char)
  | 'i' :: 'n' :: 'f' :: cs => some cs
  | 'n' :: 'a' :: 'n' :: cs => some cs
  | _ => none

/-- The fraction and exponent of a float: the digits of the fraction, the exponent, and the rest.
One of the two must be there. -/
def floatTail (cs : List Char) : Option (List Char × Int × List Char) :=
  match exponent? cs with
  | some (e, rest) => some ([], e, rest)
  | none => (fraction? cs).map fun p =>
    match exponent? p.2 with
    | some (e, rest) => (p.1, e, rest)
    | none => (p.1, 0, p.2)

/-- **Reading a float**, kept as its text. A number that rounds to infinity is refused. -/
def float (cs : List Char) : Read String :=
  let (minus, afterSign) := signed cs
  let kept := fun (rest : List Char) => String.ofList (cs.take (cs.length - rest.length))
  match special? afterSign with
  | some rest => some (kept rest, rest)
  | none =>
    match wholeDigits afterSign with
    | none => none
    | some (ds, rest) =>
      match floatTail rest with
      | none => none
      | some (fs, e, rest) =>
        if !minus ∧ overflows (ds ++ fs) (e - fs.length) then none else some (kept rest, rest)

/-! ## Moments -/

/-- A number of exactly two decimal digits in a range. -/
def twoDigits (low high : Nat) : List Char → Read Nat
  | a :: b :: cs =>
    match digits? 10 [a, b] with
    | some n => if low ≤ n ∧ n ≤ high then some (n, cs) else none
    | none => none
  | _ => none

/-- The document after a character that must stand there. -/
def expect (c : Char) : List Char → Option (List Char)
  | d :: cs => if c = d then some cs else none
  | [] => none

/-- Whether a year has a 29th of February. -/
def isLeap (year : Nat) : Bool :=
  year % 4 = 0 && (year % 100 ≠ 0 || year % 400 = 0)

/-- The number of days of a month. -/
def daysIn (year month : Nat) : Nat :=
  if month = 2 then if isLeap year then 29 else 28
  else if [4, 6, 9, 11].contains month then 30
  else 31

/-- The document after a date. -/
def date? : List Char → Option (List Char)
  | a :: b :: c :: d :: cs => do
    let year ← digits? 10 [a, b, c, d]
    let cs ← expect '-' cs
    let (month, cs) ← twoDigits 1 12 cs
    let cs ← expect '-' cs
    let (_, cs) ← twoDigits 1 (daysIn year month) cs
    return cs
  | _ => none

/-- The document after the fraction of a second, if one stands there. -/
def secondFraction : List Char → List Char
  | '.' :: c :: cs => if c.isDigit then cs.dropWhile Char.isDigit else '.' :: c :: cs
  | cs => cs

/-- The document after a time of day. -/
def time? (cs : List Char) : Option (List Char) := do
  let (_, cs) ← twoDigits 0 23 cs
  let cs ← expect ':' cs
  let (_, cs) ← twoDigits 0 59 cs
  let cs ← expect ':' cs
  let (_, cs) ← twoDigits 0 60 cs
  return secondFraction cs

/-- The document after an offset, if one stands there. -/
def offset (cs : List Char) : List Char :=
  match cs with
  | 'Z' :: rest => rest
  | 'z' :: rest => rest
  | c :: rest =>
    let read : Option (List Char) := do
      let (_, rest) ← twoDigits 0 23 rest
      let rest ← expect ':' rest
      let (_, rest) ← twoDigits 0 59 rest
      return rest
    if c = '+' ∨ c = '-' then read.getD cs else cs
  | [] => []

/-- The document after the time of day and offset that follow a date, if they do. -/
def timeAfterDate (cs : List Char) : List Char :=
  match cs with
  | c :: rest =>
    if c = 'T' ∨ c = 't' ∨ c = ' ' then ((time? rest).map offset).getD cs else cs
  | [] => []

/-- **Reading a moment**, kept as its text. -/
def moment (cs : List Char) : Read String :=
  match ((date? cs).map timeAfterDate).or (time? cs) with
  | some rest => some (String.ofList (cs.take (cs.length - rest.length)), rest)
  | none => none

end Switchboard.Toml
