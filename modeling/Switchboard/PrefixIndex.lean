import Switchboard.Address
import Switchboard.PathTree

/-!
# The index of address prefixes

The index files buckets under addresses and finds, for a destination, the bucket of the longest
filed address at or above it. Addresses filed with their host and addresses filed for any host live
apart: each host mode has its own trees, one for each authority. Segments count whole, so `/a` lies
above `/a/b` and not above `/ab`.

An index is a value: whoever keeps one keeps what was filed when it was taken.
-/

namespace Switchboard

/-- Trees by authority. -/
abbrev Forest (β : Type) := List (Authority × PathTree β)

/-- **An index of buckets by address prefix.** -/
structure PrefixIndex (β : Type) where
  /-- What is filed with its host. -/
  exact : Forest β := []
  /-- What is filed for any host. -/
  anyHost : Forest β := []
  /-- The number of buckets. -/
  size : Nat := 0

namespace PrefixIndex

variable {β : Type}

/-- The index without buckets. -/
def empty : PrefixIndex β :=
  {}

/-- The trees of a host mode. -/
def forest (ix : PrefixIndex β) : HostMode → Forest β
  | .exact => ix.exact
  | .anyHost => ix.anyHost

/-- The index with the trees of a host mode replaced. -/
def withForest (ix : PrefixIndex β) (mode : HostMode) (trees : Forest β) : PrefixIndex β :=
  match mode with
  | .exact => { ix with exact := trees }
  | .anyHost => { ix with anyHost := trees }

/-- The tree of an authority. -/
def tree? (ix : PrefixIndex β) (a : Address) (mode : HostMode) : Option (PathTree β) :=
  Assoc.get? (a.authority mode) (ix.forest mode)

/-- **The bucket filed under exactly an address.** -/
def get? (ix : PrefixIndex β) (a : Address) (mode : HostMode) : Option β :=
  (ix.tree? a mode).bind fun t => t.get? a.key

/-- **The bucket of the longest filed address at or above a destination.** -/
def lookup? (ix : PrefixIndex β) (a : Address) (mode : HostMode) : Option β :=
  (ix.tree? a mode).bind fun t => t.longest? a.key

/-- **Filing a bucket**; the answer is the one it replaces. -/
def insert (ix : PrefixIndex β) (a : Address) (mode : HostMode) (b : β) :
    Option β × PrefixIndex β :=
  let filed := ((ix.tree? a mode).getD .empty).insert b a.key
  let next := ix.withForest mode (Assoc.put (a.authority mode) filed.2 (ix.forest mode))
  (filed.1, { next with size := if filed.1.isSome then ix.size else ix.size + 1 })

/-- The index with a bucket filed under an address. -/
def file (ix : PrefixIndex β) (a : Address) (mode : HostMode) (b : β) : PrefixIndex β :=
  (ix.insert a mode b).2

/-- **Filing a bucket unless one is filed there**; the answer is whether it was filed. -/
def register (ix : PrefixIndex β) (a : Address) (mode : HostMode) (b : β) :
    Bool × PrefixIndex β :=
  if (ix.get? a mode).isSome then (false, ix) else (true, ix.file a mode b)

/-- **Removing the bucket filed under exactly an address**; the answer is that bucket. A tree that is
left bare goes too. -/
def unregister (ix : PrefixIndex β) (a : Address) (mode : HostMode) :
    Option β × PrefixIndex β :=
  match ix.tree? a mode with
  | none => (none, ix)
  | some t =>
    let left := t.remove a.key
    let trees :=
      if left.2.isBare then Assoc.drop (a.authority mode) (ix.forest mode)
      else Assoc.put (a.authority mode) left.2 (ix.forest mode)
    let next := ix.withForest mode trees
    (left.1, { next with size := if left.1.isSome then ix.size - 1 else ix.size })

/-- The index without what is filed under an address. -/
def clear (ix : PrefixIndex β) (a : Address) (mode : HostMode) : PrefixIndex β :=
  (ix.unregister a mode).2

/-- Whether nothing is filed. -/
def isEmpty (ix : PrefixIndex β) : Bool :=
  ix.size == 0

end PrefixIndex

end Switchboard
