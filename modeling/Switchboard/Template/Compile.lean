import Switchboard.Error
import Switchboard.Path
import Switchboard.Template.Basic

/-!
# Compiling templates

A template is cut at its first question mark into a path and a query. The path is read segment by
segment, then the place of the wildcard is checked, then the query is read constraint by constraint,
and last the names are compared. The first fault in this order is the one reported.

Fixed text of the path is percent-decoded here, once, since requests are compared after decoding;
fixed text of the query is compared as it stands.
-/

namespace Switchboard

/-- Whether two neighbours are both captures. -/
def Piece.adjacentCaptures : List Piece → Bool
  | a :: b :: ps => (a.isCapture && b.isCapture) || adjacentCaptures (b :: ps)
  | _ => false

/-- Whether the piece is a marker for the rest of a path. -/
def Piece.isStarred : Piece → Bool
  | .literal _ => false
  | .capture name => name.toList.head? == some '*'

/-- The piece with its fixed text decoded. -/
def Piece.decoded : Piece → Piece
  | .literal text => .literal (Path.decodeSegment text)
  | .capture name => .capture name

/-- The segment that a single marker stands for: a name after a star takes the rest of the path. -/
def Segment.ofName (name : String) : Except TemplateFault Segment :=
  match name.toList with
  | ['*'] => .error .unnamedWildcard
  | '*' :: rest => .ok (.wildcard (some (String.ofList rest)))
  | _ => .ok (.capture name)

/-- The segment that text mixed with markers stands for. -/
def Segment.ofMixed (part : String) (pieces : List Piece) : Except TemplateFault Segment :=
  if Piece.adjacentCaptures pieces then .error (.adjacentCaptures part)
  else if pieces.any Piece.isStarred then .error (.wildcardInCompound part)
  else .ok (.compound (pieces.map Piece.decoded))

/-- The segment that the pieces of a part stand for. -/
def Segment.ofPieces (part : String) (pieces : List Piece) : Except TemplateFault Segment :=
  match pieces with
  | [.capture name] => Segment.ofName name
  | ps =>
    if ps.any Piece.isCapture then Segment.ofMixed part ps
    else .ok (.literal (Path.decodeSegment part))

/-- The pieces of a part, with the part kept for the report. -/
def Piece.ofPart (part : String) : Except TemplateFault (List Piece) :=
  (Piece.split part.toList).mapError (TemplateFault.unreadable part)

/-- **Reading one segment of a path.** -/
def Segment.compile (part : String) : Except TemplateFault Segment :=
  if part = "*" then .ok (.wildcard none)
  else Piece.ofPart part >>= Segment.ofPieces part

/-- The constraint that the pieces of a query value stand for. -/
def QueryValue.ofPieces (key value : String) (pieces : List Piece) :
    Except TemplateFault QueryValue :=
  match pieces with
  | [.capture name] =>
    if (Piece.capture name).isStarred then .error (.badValue key) else .ok (.capture name)
  | ps => if ps.any Piece.isCapture then .error (.badValue key) else .ok (.literal value)

/-- **Reading the value of a query key**; a key without a value asks for the empty one. -/
def QueryValue.compile (key value : String) : Except TemplateFault QueryValue :=
  if value = "" then .ok .empty
  else Piece.ofPart value >>= QueryValue.ofPieces key value

/-- A query key holds some text and no brace. -/
def isKey (key : String) : Bool :=
  key ≠ "" && !key.toList.contains '{' && !key.toList.contains '}'

/-- Reads one constraint after the ones read before it. -/
def Template.addConstraint (seen : List (String × QueryValue)) (field : List Char) :
    Except TemplateFault (List (String × QueryValue)) := do
  let (key, value) := (Text.cut? '=' field).getD (field, [])
  let key := String.ofList key
  if !isKey key then throw (.badKey key)
  if seen.any fun q => Ascii.Same q.1 key then throw (.repeatedKey key)
  let value ← QueryValue.compile key (String.ofList value)
  return seen ++ [(key, value)]

/-- **Reading the constraints of a query**, in order. -/
def Template.compileQuery (query : List Char) : Except TemplateFault (List (String × QueryValue)) :=
  (Text.filledFields '&' query).foldlM Template.addConstraint []

/-- The first name that is the same, up to ASCII case, as one before it or one of `seen`. -/
def firstRepeated? (seen : List String) : List String → Option String
  | [] => none
  | name :: names =>
    if seen.any fun s => Ascii.Same s name then some name else firstRepeated? (name :: seen) names

/-- Reads the path of a template. -/
def Template.compilePath (path : List Char) : Except TemplateFault (List Segment) := do
  let segments ← (Path.segments (String.ofList path)).mapM Segment.compile
  if segments.dropLast.any Segment.isWildcard then throw .wildcardNotLast
  return segments

/-- Compiles a template; the fault alone is reported. -/
def Template.compileParts (text : String) : Except TemplateFault Template := do
  let (path, query) := (Text.cut? '?' text.toList).getD (text.toList, [])
  let segments ← Template.compilePath path
  let queries ← Template.compileQuery query
  let template : Template := ⟨text, segments, queries⟩
  match firstRepeated? [] template.names with
  | some name => throw (.repeatedName name)
  | none => return template

/-- **Compiling a template.** -/
def Template.compile (text : String) : Except DispatchError Template :=
  (Template.compileParts text).mapError (DispatchError.format text)

end Switchboard
