/-!
# Pieces of a template part

A part of a template, a path segment or a query value, is written as plain text with **markers**
`{name}` in it. Reading a part gives its pieces: runs of text as literals and markers as captures.
Braces serve markers only. A closing brace outside a marker, a marker that is not closed before the
next opening brace, and a marker without a name are faults.

The pieces of a part are in **normal form**: a literal holds some text, a name is not empty, neither
holds a brace, and no two literals stand side by side. `Piece.render` writes pieces out again.
-/

namespace Switchboard

/-- One piece of a template part. -/
inductive Piece where
  /-- Text that stands for itself. -/
  | literal (text : String)
  /-- A marker: any text, bound to the name. -/
  | capture (name : String)
deriving DecidableEq, Repr

/-- What a part is as a whole. -/
inductive PartKind where
  /-- Text without markers. -/
  | literal
  /-- Text and markers, or several markers. -/
  | compound
  /-- A single marker. -/
  | capture
deriving DecidableEq, Repr

/-- Why a part cannot be read. -/
inductive PartFault where
  /-- A closing brace that closes nothing. -/
  | strayClose
  /-- An opening brace that is not closed before the next one, or at all. -/
  | strayOpen
  /-- A marker without a name. -/
  | unnamed
deriving DecidableEq, Repr

namespace Piece

/-- Whether the piece is a marker. -/
def isCapture : Piece → Bool
  | .literal _ => false
  | .capture _ => true

/-- The written form of a piece. -/
def render : Piece → List Char
  | .literal text => text.toList
  | .capture name => '{' :: name.toList ++ ['}']

/-- A text as the pieces it is by itself: none if it is empty. -/
def ofText (cs : List Char) : List Piece :=
  if cs = [] then [] else [.literal (String.ofList cs)]

end Piece

/-- Where reading stands in a part, with the characters read there so far. -/
inductive PartScan where
  /-- Outside every marker. -/
  | outside (text : List Char)
  /-- Inside a marker. -/
  | inside (name : List Char)

/-- Reads on from where reading stands. -/
def PartScan.pieces : PartScan → List Char → Except PartFault (List Piece)
  | .outside text, [] => .ok (Piece.ofText text)
  | .inside _, [] => .error .strayOpen
  | .outside text, c :: cs =>
    if c = '}' then .error .strayClose
    else if c = '{' then (Piece.ofText text ++ ·) <$> PartScan.pieces (.inside []) cs
    else PartScan.pieces (.outside (text ++ [c])) cs
  | .inside name, c :: cs =>
    if c = '{' then .error .strayOpen
    else if c = '}' then
      if name = [] then .error .unnamed
      else (.capture (String.ofList name) :: ·) <$> PartScan.pieces (.outside []) cs
    else PartScan.pieces (.inside (name ++ [c])) cs

/-- **The pieces of a part.** -/
def Piece.split (part : List Char) : Except PartFault (List Piece) :=
  PartScan.pieces (.outside []) part

/-- What a list of pieces is as a whole. -/
def PartKind.ofPieces (pieces : List Piece) : PartKind :=
  match pieces with
  | [.capture _] => .capture
  | ps => if ps.any Piece.isCapture then .compound else .literal

/-- **What a part is as a whole.** -/
def PartKind.ofPart (part : String) : Except PartFault PartKind :=
  PartKind.ofPieces <$> Piece.split part.toList

/-- What is said of a part that cannot be read. -/
def PartFault.message (part : String) : PartFault → String
  | .strayClose => s!"unbalanced '\x7d' in '{part}'"
  | .strayOpen => s!"unbalanced '\x7b' in '{part}'"
  | .unnamed => s!"empty variable name in '{part}'"

end Switchboard
