/-!
# Lists of keys with values

A list of pairs in which no key occurs twice, kept in order of insertion. `put` replaces the value
of a key in its place or appends a new pair, `drop` takes a key away, and `get?` looks one up. What
the first two do to a look-up is the whole theory of the type, and later proofs go through it.
-/

namespace Switchboard.Assoc

variable {κ β : Type} [DecidableEq κ]

/-- The value of a key. -/
def get? (k : κ) (l : List (κ × β)) : Option β :=
  (l.find? fun p => p.1 = k).map (·.2)

/-- **Setting the value of a key**, in its place if it is there and at the end if it is new. -/
def put (k : κ) (v : β) : List (κ × β) → List (κ × β)
  | [] => [(k, v)]
  | p :: l => if p.1 = k then (k, v) :: l else p :: put k v l

/-- **Taking a key away.** -/
def drop (k : κ) (l : List (κ × β)) : List (κ × β) :=
  l.filter fun p => p.1 ≠ k

/-- After setting, the key has the new value. -/
@[simp] theorem get?_put_self (k : κ) (v : β) (l : List (κ × β)) :
    get? k (put k v l) = some v := by
  induction l with
  | nil => simp [put, get?]
  | cons p l ih =>
    by_cases h : p.1 = k
    · simp [put, get?, h]
    · simpa [put, get?, h] using ih

/-- Setting a key leaves the values of the others. -/
theorem get?_put_of_ne {k j : κ} (h : j ≠ k) (v : β) (l : List (κ × β)) :
    get? j (put k v l) = get? j l := by
  induction l with
  | nil => simp [put, get?, Ne.symm h]
  | cons p l ih =>
    by_cases hp : p.1 = k
    · simp [put, get?, hp, Ne.symm h]
    · by_cases hj : p.1 = j
      · subst hj
        simp [put, get?, hp]
      · simpa [put, get?, hp, hj] using ih

/-- A key taken away has no value. -/
@[simp] theorem get?_drop_self (k : κ) (l : List (κ × β)) : get? k (drop k l) = none := by
  simp [get?, drop]

/-- Taking a key away leaves the values of the others. -/
theorem get?_drop_of_ne {k j : κ} (h : j ≠ k) (l : List (κ × β)) :
    get? j (drop k l) = get? j l := by
  induction l with
  | nil => simp [drop, get?]
  | cons p l ih =>
    by_cases hp : p.1 = k
    · have hj : p.1 ≠ j := fun e => h (e.symm.trans hp)
      simpa [drop, get?, hp, Ne.symm h] using ih
    · by_cases hj : p.1 = j
      · subst hj
        simp [drop, get?, hp]
      · simpa [drop, get?, hp, hj] using ih

end Switchboard.Assoc
