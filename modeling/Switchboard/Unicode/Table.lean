import Switchboard.Text.Fields
import Switchboard.Url.Ipv4

/-!
# Tables of characters

A property of characters is written as lines of rows with blanks between them. A row covers a single
code point, all code points from one to another (`-`), or every second one of them (`~`). After a
colon it may have a tag: a number, a name, or code points with dots between them. Code points are
written in hexadecimal.
-/

namespace Switchboard.Unicode

/-- **A row of a table**: the code points it covers and its tag. -/
structure Row where
  /-- The first code point. -/
  first : Nat
  /-- The last code point. -/
  last : Nat
  /-- The distance between code points. -/
  step : Nat
  /-- The tag, empty if there is none. -/
  tag : List Char

/-- A table of characters. -/
abbrev Table := List Row

/-- The value of hexadecimal digits. -/
def hex (cs : List Char) : Nat :=
  (digits? 16 cs).getD 0

/-- The row that a field of a written table stands for. -/
def Row.ofField (field : List Char) : Row :=
  let (range, tag) := (Text.cut? ':' field).getD (field, [])
  match Text.cut? '-' range with
  | some (a, b) => ⟨hex a, hex b, 1, tag⟩
  | none =>
    match Text.cut? '~' range with
    | some (a, b) => ⟨hex a, hex b, 2, tag⟩
    | none => ⟨hex range, hex range, 1, tag⟩

/-- Reading the lines of a written table. -/
def Table.read (lines : List String) : Table :=
  lines.flatMap fun line => (Text.filledFields ' ' line.toList).map Row.ofField

/-- Whether a row covers a code point. -/
def Row.covers (r : Row) (n : Nat) : Bool :=
  r.first ≤ n && n ≤ r.last && (n - r.first) % r.step = 0

/-- The code points of a tag. -/
def Row.points (r : Row) : List Nat :=
  (Text.filledFields '.' r.tag).map hex

/-- **The row of a code point**, if the table covers it. -/
def Table.row? (t : Table) (n : Nat) : Option Row :=
  t.find? (·.covers n)

/-- Whether the table covers a code point. -/
def Table.has (t : Table) (n : Nat) : Bool :=
  t.any (·.covers n)

/-- The tag of a code point as a name. -/
def Table.name? (t : Table) (n : Nat) : Option String :=
  (t.row? n).map fun r => String.ofList r.tag

/-- The tag of a code point as a decimal number, zero if the table does not cover it. -/
def Table.number (t : Table) (n : Nat) : Nat :=
  ((t.row? n).bind fun r => digits? 10 r.tag).getD 0

/-- **The code points that replace a code point.** A tag of one code point shifts with the code
points of its row. -/
def Table.image? (t : Table) (n : Nat) : Option (List Nat) :=
  (t.row? n).map fun r =>
    match r.points with
    | [p] => [p + (n - r.first)]
    | ps => ps

end Switchboard.Unicode
