import Switchboard.Query
import Switchboard.Template.Basic

/-!
# Matching templates

A template matches the decoded segments of a path and, independently, a query. Matching a path binds
the names of the template to text; fixed text is compared up to ASCII case.

In a compound segment a capture takes **the shortest text that lets the rest match**, and at least
one character. `cuts` lists what it may take, shortest first, so the first success is the wanted
one.

A query can match in three ways, from the most specific: *especially interestingly*, when fixed
values agree and every captured key is there; *interestingly*, when fixed values agree; and
*trivially*, when the template asks nothing.
-/

namespace Switchboard

/-- Names with the text they are bound to. -/
abbrev Bindings := List (String × String)

/-- The value of the first binding whose name is the same up to ASCII case. -/
def Bindings.get? (bindings : Bindings) (name : String) : Option String :=
  (bindings.find? fun b => Ascii.Same b.1 name).map (·.2)

/-- **The ways to cut a text** into a start of at least one character and the rest, shortest start
first. -/
def cuts : List Char → List (List Char × List Char)
  | [] => []
  | c :: cs => ([c], cs) :: (cuts cs).map fun p => (c :: p.1, p.2)

/-- **Matching the pieces of a compound segment**: each capture takes the shortest text, of at least
one character, that lets the rest match.

On empty text no capture is tried. One with pieces behind it could there be bound to the empty text and
leave the empty text to them, but this is left out because it never succeeds: a capture in a compound
segment has a text behind it, since captures side by side are refused (`Segment.ofMixed`), and no text of
a segment is empty, so what is behind the capture does not match. -/
def Piece.matchAll : List Piece → List Char → Option Bindings
  | [], text => if text = [] then some [] else none
  | .literal l :: pieces, text => (Ascii.dropSame l.toList text).bind (matchAll pieces)
  | .capture name :: pieces, text =>
    (cuts text).findSome? fun p =>
      (matchAll pieces p.2).map ((name, String.ofList p.1) :: ·)

/-- Matching one segment that is not a wildcard. -/
def Segment.matchOne (segment : Segment) (actual : String) : Option Bindings :=
  match segment with
  | .literal text => if Ascii.Same text actual then some [] else none
  | .capture name => some [(name, actual)]
  | .compound pieces => Piece.matchAll pieces actual.toList
  | .wildcard _ => none

/-- **Matching the segments of a path**, in order; a wildcard takes all that is left. -/
def Segment.matchAll : List Segment → List String → Option Bindings
  | .wildcard name :: _, actual =>
    some (name.toList.map fun n => (n, String.intercalate "/" actual))
  | [], [] => some []
  | [], _ :: _ => none
  | _ :: _, [] => none
  | s :: segments, a :: actual =>
    (s.matchOne a).bind fun b => (matchAll segments actual).map (b ++ ·)

namespace Template

/-- **Matching a path**, given by its decoded segments. -/
def matchPath (t : Template) (actual : List String) : Option Bindings :=
  Segment.matchAll t.segments actual

/-- Whether a query answers one constraint; with `strict`, a captured key must be there. -/
def answers (query : Query) (strict : Bool) (constraint : String × QueryValue) : Bool :=
  match constraint.2 with
  | .literal text => query.value? constraint.1 == some text
  | .empty => query.value? constraint.1 == some ""
  | .capture _ => !strict || (query.value? constraint.1).isSome

/-- **Whether a query matches interestingly**: the template has constraints and the query answers
them all. With `strict` it matches *especially* interestingly. -/
def matchesQuery (t : Template) (query : Query) (strict : Bool) : Bool :=
  !t.isPlain && t.queries.all (answers query strict)

/-- The names that the query binds: those of the captured keys it has. -/
def queryBindings (t : Template) (query : Query) : Bindings :=
  t.queries.flatMap fun q => q.2.names.filterMap fun n => (query.value? q.1).map (n, ·)

end Template

end Switchboard
