/-!
# Fields of a text

Paths, query strings, host names and option arguments are all texts with separators. `fields` gives
the parts between **all** separators, one more than there are separators and empty ones included;
`cut?` gives the two parts around the **first** one. Both work on the characters of a text and lose
none of them: writing the separator between the parts gives the text back.
-/

namespace Switchboard.Text

/-- **The fields of a text**: the parts between its separators, empty ones included. -/
def fields (sep : Char) : List Char → List (List Char)
  | [] => [[]]
  | c :: cs => if c = sep then [] :: fields sep cs else (fields sep cs).modifyHead (c :: ·)

/-- **The text around its first separator**, or nothing if it has none. -/
def cut? (sep : Char) : List Char → Option (List Char × List Char)
  | [] => none
  | c :: cs => if c = sep then some ([], cs) else (cut? sep cs).map fun p => (c :: p.1, p.2)

/-- The fields that hold at least one character. -/
def filledFields (sep : Char) (cs : List Char) : List (List Char) :=
  (fields sep cs).filter (· ≠ [])

/-- A text has at least one field. -/
theorem fields_ne_nil (sep : Char) (cs : List Char) : fields sep cs ≠ [] := by
  cases cs with
  | nil => simp [fields]
  | cons c cs =>
    by_cases h : c = sep
    · simp [fields, h]
    · simp [fields, h, fields_ne_nil sep cs]

/-- The parts around the first separator, with the separator between them, are the text. -/
theorem append_of_cut? {sep : Char} {cs a b : List Char} (h : cut? sep cs = some (a, b)) :
    cs = a ++ sep :: b := by
  induction cs generalizing a with
  | nil => simp [cut?] at h
  | cons c cs ih =>
    by_cases hc : c = sep
    · simp only [cut?, hc, if_true, Option.some.injEq, Prod.mk.injEq] at h
      simp [← h.1, ← h.2, hc]
    · simp only [cut?, hc, if_false, Option.map_eq_some_iff, Prod.mk.injEq] at h
      obtain ⟨p, hp, rfl, rfl⟩ := h
      simp [ih hp]

/-- The part before the first separator does not hold it. -/
theorem not_mem_of_cut? {sep : Char} {cs a b : List Char} (h : cut? sep cs = some (a, b)) :
    sep ∉ a := by
  induction cs generalizing a with
  | nil => simp [cut?] at h
  | cons c cs ih =>
    by_cases hc : c = sep
    · simp only [cut?, hc, if_true, Option.some.injEq, Prod.mk.injEq] at h
      simp [← h.1]
    · simp only [cut?, hc, if_false, Option.map_eq_some_iff, Prod.mk.injEq] at h
      obtain ⟨p, hp, rfl, rfl⟩ := h
      simpa [Ne.symm hc] using ih hp

/-- The parts around the first separator. -/
theorem cut?_eq_some_iff {sep : Char} {cs a b : List Char} :
    cut? sep cs = some (a, b) ↔ cs = a ++ sep :: b ∧ sep ∉ a := by
  refine ⟨fun h => ⟨append_of_cut? h, not_mem_of_cut? h⟩, ?_⟩
  rintro ⟨rfl, hsep⟩
  induction a with
  | nil => rw [List.nil_append, cut?, if_pos rfl]
  | cons c a ih =>
    rw [List.mem_cons, not_or] at hsep
    rw [List.cons_append, cut?, if_neg (Ne.symm hsep.1), ih hsep.2]
    rfl

/-- A text without the separator cannot be cut. -/
theorem cut?_eq_none_iff (sep : Char) (cs : List Char) : cut? sep cs = none ↔ sep ∉ cs := by
  induction cs with
  | nil => simp [cut?]
  | cons c cs ih => by_cases hc : c = sep <;> simp [cut?, hc, ih, eq_comm (a := sep)]

end Switchboard.Text
