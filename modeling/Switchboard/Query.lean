import Switchboard.Text.Ascii
import Switchboard.Text.Fields
import Switchboard.Text.Percent

/-!
# Query strings

A query is a list of key and value pairs in arrival order. It is read from a raw query string by the
rules for submitted forms: pairs stand between `&`, the value follows the first `=`, a `+` is a
space, and both parts are percent-decoded. A key that is empty after decoding is dropped with its
value; a key without `=` has the empty value.

A key may occur several times. The value **of** a key is its first one, and keys are compared up to
ASCII case.
-/

namespace Switchboard

/-- The key and value pairs of a request, in arrival order. -/
abbrev Query := List (String × String)

namespace Query

/-- **The value of a key**: the value of the first pair whose key is the same up to ASCII case. -/
def value? (query : Query) (key : String) : Option String :=
  (query.find? fun p => Ascii.Same p.1 key).map (·.2)

/-- A key or value as it was typed: each `+` is a space and percent-escapes are undone. -/
def unplus (cs : List Char) : List Char :=
  Percent.decode (cs.map fun c => if c = '+' then ' ' else c)

/-- One field of a query string as a pair. -/
def pairOfField (field : List Char) : String × String :=
  let (key, value) := (Text.cut? '=' field).getD (field, [])
  (String.ofList (unplus key), String.ofList (unplus value))

/-- The text without one leading question mark. -/
def dropMark : List Char → List Char
  | '?' :: cs => cs
  | cs => cs

/-- **Reading a query string.** -/
def parse (raw : String) : Query :=
  ((Text.filledFields '&' (dropMark raw.toList)).map pairOfField).filter (·.1 ≠ "")

end Query

end Switchboard
