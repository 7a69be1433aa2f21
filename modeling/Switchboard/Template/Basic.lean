import Switchboard.Text.Ascii
import Switchboard.Template.Piece

/-!
# Compiled templates

A template such as `/items/{id}?format=xml` constrains the path and the query of a request. Its path
is a list of **segments**: fixed text, a capture of one whole segment, a compound of text and
captures, or a final wildcard for whatever is left. Its query is a list of **constraints** on the
values of distinct keys: a fixed value, no value at all, or any value, captured.

The **shape** of a template is what its path looks like without the names and the letter case. The
templates of one shape form a group, and only the query can tell them apart. Wildcard templates
compete with wildcard templates of other lengths too, where the shorter one's path leads into the
longer one's: `sharesShape`.
-/

namespace Switchboard

/-- One segment of a template's path. -/
inductive Segment where
  /-- Fixed text, decoded. -/
  | literal (text : String)
  /-- Any one segment, bound to the name. -/
  | capture (name : String)
  /-- One segment made of fixed text and captures. -/
  | compound (pieces : List Piece)
  /-- The rest of the path, bound to the name if there is one. -/
  | wildcard (name : Option String)
deriving DecidableEq, Repr

/-- The constraint a template puts on the value of one query key. -/
inductive QueryValue where
  /-- The value is this text. -/
  | literal (text : String)
  /-- Any value, or none, bound to the name if there is one. -/
  | capture (name : String)
  /-- The key is there and its value is empty. -/
  | empty
deriving DecidableEq, Repr

/-- **A compiled template.** -/
structure Template where
  /-- The template as it was written. -/
  text : String
  /-- The segments of its path. -/
  segments : List Segment
  /-- Its constraints by query key, in the order they were written. -/
  queries : List (String × QueryValue)
deriving DecidableEq, Repr

/-- The look of a piece in a shape: its text in upper case, or a marker without a name. -/
def Piece.canonical : Piece → String
  | .literal text => Ascii.upper text
  | .capture _ => "\x7b\x7d"

/-- The names a piece binds. -/
def Piece.names : Piece → List String
  | .literal _ => []
  | .capture name => [name]

namespace Segment

/-- The look of a segment in a shape. -/
def canonical : Segment → String
  | .literal text => Ascii.upper text
  | .capture _ => "\x7b\x7d"
  | .compound pieces => String.join (pieces.map Piece.canonical)
  | .wildcard _ => "*"

/-- Whether the segment takes the rest of the path. -/
def isWildcard : Segment → Bool
  | .wildcard _ => true
  | _ => false

/-- The names a segment binds, in order. -/
def names : Segment → List String
  | .literal _ => []
  | .capture name => [name]
  | .compound pieces => pieces.flatMap Piece.names
  | .wildcard name => name.toList

end Segment

namespace QueryValue

/-- Whether the constraint fixes the value of its key. -/
def isFixed : QueryValue → Bool
  | .literal _ => true
  | .empty => true
  | .capture _ => false

/-- The text a literal constraint asks for; an empty value has none. -/
def text? : QueryValue → Option String
  | .literal text => some text
  | _ => none

/-- The names a constraint binds. -/
def names : QueryValue → List String
  | .capture name => [name]
  | _ => []

/-- Whether two constraints ask the same, whatever name they bind. -/
def sameDemand : QueryValue → QueryValue → Bool
  | .literal a, .literal b => a == b
  | .capture _, .capture _ => true
  | .empty, .empty => true
  | _, _ => false

end QueryValue

namespace Template

/-- **The shape of a template's path**: the looks of its segments, with slashes between them. -/
def shape (t : Template) : String :=
  String.intercalate "/" (t.segments.map Segment.canonical)

/-- The shape with its leading slash, as it is shown. -/
def shapeText (t : Template) : String :=
  "/" ++ t.shape

/-- The names the path binds, in order. -/
def pathNames (t : Template) : List String :=
  t.segments.flatMap Segment.names

/-- **All names a template binds**: those of the path, then those of the query. -/
def names (t : Template) : List String :=
  t.pathNames ++ t.queries.flatMap fun q => q.2.names

/-- The constraint on a key, found up to ASCII case. -/
def query? (t : Template) (key : String) : Option QueryValue :=
  (t.queries.find? fun q => Ascii.Same q.1 key).map (·.2)

/-- Whether the template takes the rest of the path. -/
def endsInWildcard (t : Template) : Bool :=
  t.segments.getLast?.any Segment.isWildcard

/-- Whether the template accepts every query. -/
def isPlain (t : Template) : Bool :=
  t.queries.isEmpty

/-- Whether some query key must have a fixed value. -/
def fixesSomeValue (t : Template) : Bool :=
  t.queries.any fun q => q.2.isFixed

/-- The looks of the first `n` segments. -/
def looks (t : Template) (n : Nat) : List String :=
  (t.segments.take n).map Segment.canonical

/-- **Whether two templates can compete for the same paths**: their shapes are equal, or both take
the rest of the path and look alike before the wildcard of the shorter one. -/
def sharesShape (a b : Template) : Bool :=
  let stem := min a.segments.length b.segments.length - 1
  a.shape == b.shape ||
    (a.endsInWildcard && b.endsInWildcard && a.looks stem == b.looks stem)

/-- **Whether two templates ask the same**: one shape, as many constraints, and the same demand on
every key, names aside. -/
def isEquivalent (a b : Template) : Bool :=
  a.shape == b.shape && a.queries.length == b.queries.length &&
    a.queries.all fun q => (b.query? q.1).any q.2.sameDemand

end Template

end Switchboard
