/-!
# ASCII letter case

Scheme and host names are kept in lower case, path text is compared without regard to case, and in
both the only letters that have a case are `A`–`Z` and `a`–`z`: a letter outside ASCII equals only
itself. Two texts are the **same up to case** when their upper-case forms are equal, which makes the
relation an equality of images, so that it is an equivalence and decidable for free.
-/

namespace Switchboard.Ascii

/-- The text with `a`–`z` raised to `A`–`Z` and every other character kept. -/
def upper (s : String) : String :=
  String.ofList (s.toList.map Char.toUpper)

/-- The text with `A`–`Z` lowered to `a`–`z` and every other character kept. -/
def lower (s : String) : String :=
  String.ofList (s.toList.map Char.toLower)

/-- **Equality up to ASCII letter case.** -/
def Same (a b : String) : Prop :=
  upper a = upper b

instance (a b : String) : Decidable (Same a b) :=
  inferInstanceAs (Decidable (upper a = upper b))

/-- What is left of `text` after `start`, compared up to ASCII letter case, if it starts so. -/
def dropSame : (start text : List Char) → Option (List Char)
  | [], text => some text
  | _ :: _, [] => none
  | s :: start, c :: text => if s.toUpper = c.toUpper then dropSame start text else none

/-- The characters of the upper-case form. -/
@[simp] theorem toList_upper (s : String) : (upper s).toList = s.toList.map Char.toUpper := by
  simp [upper]

/-- Two texts are the same up to case when their characters are, one by one. -/
theorem same_iff (a b : String) :
    Same a b ↔ a.toList.map Char.toUpper = b.toList.map Char.toUpper := by
  rw [Same, ← String.toList_inj, toList_upper, toList_upper]

/-- Every text is the same as itself. -/
theorem same_refl (a : String) : Same a a := rfl

end Switchboard.Ascii
