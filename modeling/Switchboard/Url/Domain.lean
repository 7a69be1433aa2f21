import Switchboard.Unicode.ClassTable
import Switchboard.Unicode.MappingTable
import Switchboard.Unicode.Normal
import Switchboard.Unicode.ValidTable
import Switchboard.Url.Punycode

/-!
# Domain names

A domain name is a list of labels with dots between them. A name in ASCII without labels that
Punycode wrote is only put into lower case. Any other name goes through the processing for
international names (UTS #46, with the settings for web addresses): characters are replaced, the
name is put into composed form, labels that Punycode wrote are read, every label is checked, and
labels with characters outside ASCII are written in ASCII.

What a label may be is loose: it may be empty, it may be long as long as Punycode is not needed, and
may hold hyphens anywhere. It must not start with a combining mark, joiners must stand where they
join, and in a name with text that runs from right to left no label may mix directions. Either way
some characters of ASCII are ruled out.
-/

namespace Switchboard.Domain

open Unicode

/-- Whether a character of ASCII may not stand in a domain name. -/
def isForbidden (c : Char) : Bool :=
  c.toNat ≤ 0x20 || c.toNat = 0x7F || "#%/:<>?@[\\]^|".toList.contains c

/-- Whether a character is in ASCII. -/
def isAscii (c : Char) : Bool :=
  c.toNat < 0x80

/-- What stands for a character of a name: nothing if it is dropped, and no answer if it may not
stand there. -/
def mapChar? (c : Char) : Option (List Nat) :=
  if isAscii c then some [c.toLower.toNat]
  else if ignored.has c.toNat then some []
  else if valid.has c.toNat then some [c.toNat]
  else mapped.image? c.toNat

/-- Whether a character may stand in a label as it is. -/
def isKept (c : Char) : Bool :=
  if isAscii c then !c.isUpper && !isForbidden c else valid.has c.toNat

/-! ## Joiners -/

/-- The joining type of a character. -/
def joining (c : Char) : String :=
  (joinings.name? c.toNat).getD ""

/-- The joining type of the first character that is not transparent. -/
def firstJoining (cs : List Char) : String :=
  ((cs.find? fun c => joining c ≠ "T").map joining).getD ""

/-- Whether joiners stand where they may: behind a virama, and the non-joiner also between letters
that would join. The characters before are given in reverse. -/
def joinersFit (before : List Char) : List Char → Bool
  | [] => true
  | c :: cs =>
    let behindVirama := before.head?.any fun b => combiningClass b.toNat = 9
    let between :=
      ["L", "D"].contains (firstJoining before) && ["R", "D"].contains (firstJoining cs)
    let fits :=
      if c = '\u200C' then behindVirama || between
      else if c = '\u200D' then behindVirama
      else true
    fits && joinersFit (c :: before) cs

/-! ## Directions -/

/-- The bidirectional class of a character. -/
def direction (c : Char) : String :=
  if isAscii c then
    if c.isAlpha then "L"
    else if c.isDigit then "EN"
    else if c = '+' ∨ c = '-' then "ES"
    else if c = ',' ∨ c = '.' ∨ c = '/' ∨ c = ':' then "CS"
    else if c = '#' ∨ c = '$' ∨ c = '%' then "ET"
    else "ON"
  else (directions.name? c.toNat).getD "L"

/-- Whether a class belongs to text that runs from right to left. -/
def isRightToLeft (d : String) : Bool :=
  ["R", "AL", "AN"].contains d

/-- Whether a label keeps to one direction, given the classes of its characters. -/
def keepsDirection (ds : List String) : Bool :=
  let neutral := ["EN", "ES", "CS", "ET", "ON", "BN", "NSM"]
  let final := (ds.reverse.find? (· ≠ "NSM")).getD ""
  match ds.head? with
  | none => true
  | some first =>
    if first = "L" then
      ds.all (fun d => d = "L" || neutral.contains d) && ["L", "EN"].contains final
    else if first = "R" ∨ first = "AL" then
      ds.all (fun d => isRightToLeft d || neutral.contains d) &&
        ["R", "AL", "EN", "AN"].contains final && !(ds.contains "EN" && ds.contains "AN")
    else false

/-! ## Labels -/

/-- How long a label with characters outside ASCII may be. -/
def maxLabel : Nat := 1000

/-- How long the digits and characters may be that Punycode wrote for a label. -/
def maxEncoded : Nat := 2000

/-- Whether a label may stand in a name, directions aside. -/
def isLabel (label : List Char) : Bool :=
  (label.all isAscii || label.length ≤ maxLabel) && label.all isKept &&
    !(label.head?.any fun c => marks.has c.toNat) && joinersFit [] label

/-- The start of a label that Punycode wrote. -/
def encodedStart : List Char := ['x', 'n', '-', '-']

/-- Whether Punycode wrote a label. -/
def isEncoded (label : List Char) : Bool :=
  encodedStart.isPrefixOf label

/-- The label that a written one stands for. Punycode must have been needed, and must give a label
in composed form. -/
def readLabel? (label : List Char) : Option (List Char) :=
  if isEncoded label then
    let text := label.drop 4
    if maxEncoded < text.length then none
    else
      (Punycode.decode? text).filter fun cs =>
        !cs.all isAscii && compose (cs.map Char.toNat) = cs.map Char.toNat
  else some label

/-- A label in ASCII. -/
def writeLabel (label : List Char) : List Char :=
  if label.all isAscii then label else encodedStart ++ Punycode.encode label

/-- The labels of a name, checked. -/
def labels? (name : List Char) : Option (List (List Char)) := do
  let points ← (name.mapM mapChar?).map List.flatten
  let labels ← (Text.fields '.' ((compose points).map Char.ofNat)).mapM readLabel?
  let classes := labels.map fun l => l.map direction
  let mixed := classes.any fun ds => ds.any isRightToLeft
  if labels.all isLabel ∧ (!mixed ∨ classes.all keepsDirection) then some labels else none

/-- Whether a name needs no more than lower case. -/
def isPlain (name : List Char) : Bool :=
  name.all isAscii &&
    (Text.fields '.' (name.map Char.toLower)).all fun label => !isEncoded label

/-- **A domain name in ASCII**, or nothing if it is none. -/
def toAscii? (name : List Char) : Option (List Char) :=
  if isPlain name then
    if name.any isForbidden then none else some (name.map Char.toLower)
  else (labels? name).map fun labels => ['.'].intercalate (labels.map writeLabel)

end Switchboard.Domain
