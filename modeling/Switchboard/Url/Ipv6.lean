import Switchboard.Url.Ipv4

/-!
# IPv6 addresses

An address is eight groups of 16 bits, written in hexadecimal with colons between them. The last two
may be written as a dotted quad, and one run of zero groups as `::`. Writing shortens the longest
run of at least two zero groups, the first such run if there are several.
-/

namespace Switchboard

/-- **An IPv6 address**, as its eight groups. -/
structure Ipv6 where
  /-- The groups, each below 65536. -/
  groups : List Nat
deriving DecidableEq, Repr

namespace Ipv6

/-- A group: one to four hexadecimal digits. -/
def group? (cs : List Char) : Option Nat :=
  if cs = [] ∨ 4 < cs.length then none else digits? 16 cs

/-- The groups of fields, the last of which may be a dotted quad. -/
def groups? : List (List Char) → Option (List Nat)
  | [] => some []
  | [last] =>
    match group? last with
    | some g => some [g]
    | none => (Ipv4.parseQuad? last).map fun a =>
        [a.value.toNat / 0x10000, a.value.toNat % 0x10000]
  | f :: fs => do
    let g ← group? f
    let gs ← groups? fs
    return g :: gs

/-- The text around the first `::`. -/
def cutGap? : List Char → Option (List Char × List Char)
  | ':' :: ':' :: cs => some ([], cs)
  | c :: cs => (cutGap? cs).map fun p => (c :: p.1, p.2)
  | [] => none

/-- The fields of one side of a `::`, none if there is no text. -/
def sideFields (cs : List Char) : List (List Char) :=
  if cs = [] then [] else Text.fields ':' cs

/-- **Reading an address.** A `::` stands for at least one zero group, and a dotted quad stands only
at the very end. -/
def parse? (cs : List Char) : Option Ipv6 :=
  match cutGap? cs with
  | none => ((groups? (Text.fields ':' cs)).filter (·.length = 8)).map Ipv6.mk
  | some (before, after) => do
    let head ← (sideFields before).mapM group?
    let tail ← groups? (sideFields after)
    if head.length + tail.length ≤ 7 then
      some ⟨head ++ List.replicate (8 - head.length - tail.length) 0 ++ tail⟩
    else none

/-- The hexadecimal text of a group. -/
def groupText (n : Nat) : String :=
  String.ofList (Nat.toDigits 16 n)

/-- The length of the run of zeros a list starts with. -/
def zeroRun (gs : List Nat) : Nat :=
  (gs.takeWhile (· = 0)).length

/-- The start and the length of the longest run of zeros, the first of several, with the list
starting at position `start`. -/
def longestRun (start : Nat) : List Nat → Nat × Nat
  | [] => (start, 0)
  | g :: gs =>
    let here := zeroRun (g :: gs)
    let later := longestRun (start + 1) gs
    if later.2 ≤ here then (start, here) else later

/-- **Writing an address**, the longest run of zero groups shortened. -/
def display (a : Ipv6) : String :=
  let (start, length) := longestRun 0 a.groups
  let text := fun gs => String.intercalate ":" (List.map groupText gs)
  if length < 2 then text a.groups
  else text (a.groups.take start) ++ "::" ++ text (a.groups.drop (start + length))

end Ipv6

end Switchboard
