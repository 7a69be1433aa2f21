/-!
# Lists without repeats

`distinct` keeps the first occurrence of every element, in order. Header names declared twice by a
filter, and names met again while numbering headers, count once and at their first place.
-/

namespace Switchboard

/-- **The first occurrence of every element**, in order. -/
def distinct {α : Type} [DecidableEq α] : List α → List α
  | [] => []
  | x :: xs => x :: (distinct xs).filter (· ≠ x)

variable {α : Type} [DecidableEq α]

/-- The elements are the same. -/
@[simp] theorem mem_distinct {x : α} {xs : List α} : x ∈ distinct xs ↔ x ∈ xs := by
  induction xs with
  | nil => simp [distinct]
  | cons y ys ih => by_cases h : x = y <;> simp [distinct, ih, h]

/-- No element occurs twice. -/
theorem nodup_distinct (xs : List α) : (distinct xs).Nodup := by
  induction xs with
  | nil => simp [distinct]
  | cons y ys ih => exact List.nodup_cons.2 ⟨by simp, ih.filter _⟩

end Switchboard
