import Switchboard.Distinct
import Switchboard.HeaderMask
import Switchboard.QualifiedName

/-!
# Positions for header names

The candidates of one set agree on a position for each header name that some of them require. An
allocator holds, for each such name, its position and how many candidates require it. A new name
takes the lowest free position; a name that no candidate requires any more gives its position up;
and renumbering gives out the positions anew, by first occurrence over the candidates.

A header name without a position says nothing to any candidate, so it is left out of a request's
mask.
-/

namespace Switchboard

/-- A header name with its position and the number of candidates that require it. -/
structure Slot where
  /-- The header name. -/
  name : QualifiedName
  /-- Its position. -/
  bit : Nat
  /-- How many candidates require it. -/
  refs : Nat
deriving DecidableEq, Repr

/-- **The positions of a candidate set's header names**, in order of allocation. -/
structure MaskAllocator where
  /-- The allocated names. -/
  slots : List Slot := []
deriving DecidableEq, Repr, Inhabited

namespace MaskAllocator

/-- The slot of a name. -/
def slot? (a : MaskAllocator) (name : QualifiedName) : Option Slot :=
  a.slots.find? fun s => s.name = name

/-- The position of a name, if it has one. -/
def bit? (a : MaskAllocator) (name : QualifiedName) : Option Nat :=
  (a.slot? name).map Slot.bit

/-- How many candidates require a name. -/
def refs (a : MaskAllocator) (name : QualifiedName) : Nat :=
  ((a.slot? name).map Slot.refs).getD 0

/-- The number of allocated names. -/
def size (a : MaskAllocator) : Nat :=
  a.slots.length

/-- Whether no name is allocated. -/
def isEmpty (a : MaskAllocator) : Bool :=
  a.slots.isEmpty

/-- **The lowest position that no name has**; one of the first `size + 1` is free. -/
def lowestFree (a : MaskAllocator) : Nat :=
  ((List.range a.slots.length).find? fun i => !(a.slots.map Slot.bit).contains i).getD
    a.slots.length

/-- The allocator with the slot of a name replaced. -/
def modify (a : MaskAllocator) (name : QualifiedName) (f : Slot → Slot) : MaskAllocator :=
  ⟨a.slots.map fun s => if s.name = name then f s else s⟩

/-- Counts one more candidate that requires a name. -/
def retainName (a : MaskAllocator) (name : QualifiedName) : MaskAllocator :=
  if (a.slot? name).isSome then a.modify name fun s => { s with refs := s.refs + 1 }
  else ⟨a.slots ++ [⟨name, a.lowestFree, 1⟩]⟩

/-- **Counts one more candidate that requires each of the names.** A name not met before takes the
lowest free position. -/
def retain (a : MaskAllocator) (names : List QualifiedName) : MaskAllocator :=
  names.foldl retainName a

/-- Counts one candidate fewer that requires a name. -/
def releaseName (a : MaskAllocator) (name : QualifiedName) : MaskAllocator :=
  if a.refs name ≤ 1 then ⟨a.slots.filter fun s => s.name ≠ name⟩
  else a.modify name fun s => { s with refs := s.refs - 1 }

/-- **Counts one candidate fewer that requires each of the names.** A name that nobody requires any
more gives up its position. -/
def release (a : MaskAllocator) (names : List QualifiedName) : MaskAllocator :=
  names.foldl releaseName a

/-- The allocated names among the names of the candidates, each at its first occurrence. -/
def order (a : MaskAllocator) (candidates : List (List QualifiedName)) : List QualifiedName :=
  (distinct candidates.flatten).filter fun n => (a.slot? n).isSome

/-- **Numbering anew**: the names take the positions from zero on, by first occurrence over the
candidates. -/
def rebuild (a : MaskAllocator) (candidates : List (List QualifiedName)) : MaskAllocator :=
  ⟨a.slots.map fun s =>
    match (a.order candidates).idxOf? s.name with
    | some i => { s with bit := i }
    | none => s⟩

/-- **The mask of names**: the positions of those that have one. -/
def maskFor (a : MaskAllocator) (names : List QualifiedName) : HeaderMask :=
  HeaderMask.ofBits (names.filterMap a.bit?)

end MaskAllocator

end Switchboard
