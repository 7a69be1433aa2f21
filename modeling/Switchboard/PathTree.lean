import Switchboard.Assoc

/-!
# Trees of path segments

A tree files buckets under lists of segments. A node may hold a bucket and has children by segment.
`longest?` finds the bucket of the longest filed start of a list; a node without a bucket on the way
does not stop it. Removing a bucket **prunes**: a node that is left without bucket and children goes
too.
-/

namespace Switchboard

/-- **A tree of buckets filed under lists of segments.** -/
inductive PathTree (β : Type) where
  /-- A node with its bucket, if it has one, and its children by segment. -/
  | node (bucket : Option β) (children : List (String × PathTree β))

namespace PathTree

variable {β : Type}

/-- The tree without buckets. -/
def empty : PathTree β :=
  .node none []

/-- The bucket at the root. -/
def bucket : PathTree β → Option β
  | .node b _ => b

/-- The children of the root. -/
def children : PathTree β → List (String × PathTree β)
  | .node _ cs => cs

/-- Whether the root has neither bucket nor children. -/
def isBare : PathTree β → Bool
  | .node b cs => b.isNone && cs.isEmpty

/-- **The bucket filed under exactly a list of segments.** -/
def get? : PathTree β → List String → Option β
  | t, [] => t.bucket
  | t, s :: ss => (Assoc.get? s t.children).bind fun child => get? child ss

/-- **The bucket filed under the longest start of a list of segments.** -/
def longest? : PathTree β → List String → Option β
  | t, [] => t.bucket
  | t, s :: ss => ((Assoc.get? s t.children).bind fun child => longest? child ss).or t.bucket

/-- **Filing a bucket**; the answer is the one filed there before, which it replaces. -/
def insert (b : β) : PathTree β → List String → Option β × PathTree β
  | t, [] => (t.bucket, .node (some b) t.children)
  | t, s :: ss =>
    let filed := insert b ((Assoc.get? s t.children).getD empty) ss
    (filed.1, .node t.bucket (Assoc.put s filed.2 t.children))

/-- **Removing a bucket**, with the nodes that it leaves bare; the answer is that bucket. -/
def remove : PathTree β → List String → Option β × PathTree β
  | t, [] => (t.bucket, .node none t.children)
  | t, s :: ss =>
    match Assoc.get? s t.children with
    | none => (none, t)
    | some child =>
      let left := remove child ss
      let children :=
        if left.2.isBare then Assoc.drop s t.children else Assoc.put s left.2 t.children
      (left.1, .node t.bucket children)

end PathTree

end Switchboard
