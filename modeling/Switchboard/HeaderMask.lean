/-!
# Header masks

A set of header positions, kept as a bit set in 64-bit words, lowest positions first. Setting a
position adds words only as far as that position needs, so the last word of a mask is never zero and
equal sets have equal words. There is no bound on the positions.
-/

namespace Switchboard

/-- **A set of header positions**, as 64-bit words, lowest positions first. -/
structure HeaderMask where
  /-- The words. -/
  words : List UInt64 := []
deriving DecidableEq, Repr, Inhabited

namespace HeaderMask

/-- The number of positions in a word. -/
def wordBits : Nat := 64

/-- The word that holds one position of its 64. -/
def bit (i : Nat) : UInt64 :=
  1 <<< UInt64.ofNat i

/-- Adds the positions of a word to the `i`-th word, with empty words up to it. -/
def orWord (w : UInt64) : (i : Nat) → List UInt64 → List UInt64
  | 0, [] => [w]
  | 0, v :: vs => (v ||| w) :: vs
  | i + 1, [] => 0 :: orWord w i []
  | i + 1, v :: vs => v :: orWord w i vs

/-- **Setting a position.** -/
def set (m : HeaderMask) (i : Nat) : HeaderMask :=
  ⟨orWord (bit (i % wordBits)) (i / wordBits) m.words⟩

/-- The mask of exactly the given positions. -/
def ofBits (bits : List Nat) : HeaderMask :=
  bits.foldl set ⟨[]⟩

/-- **Whether a position is set.** -/
def contains (m : HeaderMask) (i : Nat) : Bool :=
  m.words[i / wordBits]?.any fun w => w &&& bit (i % wordBits) != 0

/-- Whether no position is set. -/
def isEmpty (m : HeaderMask) : Bool :=
  m.words.isEmpty

/-- Whether every position of the first words is among those of the second; words that are not there
hold no position. -/
def subsetWords : List UInt64 → List UInt64 → Bool
  | [], _ => true
  | v :: vs, ws => v &&& ~~~(ws.headD 0) == 0 && subsetWords vs ws.tail

/-- **Whether every position of the mask is set in another one.** -/
def isSubset (m n : HeaderMask) : Bool :=
  subsetWords m.words n.words

/-- The positions set in words, the first of which holds the positions from `start` on. -/
def bitsFrom (start : Nat) : List UInt64 → List Nat
  | [] => []
  | w :: ws =>
    ((List.range wordBits).filter fun i => w &&& bit i != 0).map (start + ·) ++
      bitsFrom (start + wordBits) ws

/-- **The positions set**, ascending. -/
def bits (m : HeaderMask) : List Nat :=
  bitsFrom 0 m.words

end HeaderMask

end Switchboard
