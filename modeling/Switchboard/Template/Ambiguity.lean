import Switchboard.Error
import Switchboard.Template.Basic

/-!
# Telling templates apart

Templates that compete for the same paths can stand side by side only if no query is of interest to
two of them. The check looks at fixed values alone. Templates without constraints come first: at
most one is let in. The others must all fix the value of some common keys, and any two of them must
fix different values, the values of all common keys taken together.

Where duplicates are allowed, templates without constraints may repeat, and so may templates that
ask the same.

Constrained templates are looked at in order of how many constraints they have, and among equals in
the order given; the first pair that clashes is the one reported.
-/

namespace Switchboard.Template

/-- The keys whose value the template fixes, in upper case. -/
def fixedKeys (t : Template) : List String :=
  (t.queries.filter fun q => q.2.isFixed).map fun q => Ascii.upper q.1

/-- Whether the template fixes the value of a key. -/
def fixes (t : Template) (key : String) : Bool :=
  (t.query? key).any QueryValue.isFixed

/-- The text a template asks for at a key; an empty value has none. -/
def fixedText? (t : Template) (key : String) : Option String :=
  (t.query? key).bind QueryValue.text?

/-- **The keys whose value all templates fix.** -/
def commonKeys : List Template → List String
  | [] => []
  | t :: ts => t.fixedKeys.filter fun key => (t :: ts).all (·.fixes key)

/-- Whether two templates fix the same value at each of the keys. -/
def agreeOn (keys : List String) (a b : Template) : Bool :=
  keys.all fun key => a.fixedText? key == b.fixedText? key

/-- What is wrong with two templates that fix values at common keys, if anything. -/
def clash? (allowDuplicates : Bool) (keys : List String) (a b : Template) : Option DispatchError :=
  if !agreeOn keys a b then none
  else if !a.isEquivalent b then some (.conflict a.text (some b.text) .sameValues)
  else if allowDuplicates then none
  else some (.conflict a.text (some b.text) .duplicate)

/-- The first clash between a template and a later one. -/
def firstClash? (allowDuplicates : Bool) (keys : List String) : List Template → Option DispatchError
  | [] => none
  | t :: ts =>
    (ts.findSome? (clash? allowDuplicates keys t)).or (firstClash? allowDuplicates keys ts)

/-- Whether each template asks the same as the next one. -/
def allEquivalent : List Template → Bool
  | a :: b :: ts => a.isEquivalent b && allEquivalent (b :: ts)
  | _ => true

/-- What is wrong with constrained templates side by side, if anything. -/
def constrainedFault? (allowDuplicates : Bool) (ts : List Template) : Option DispatchError :=
  match ts with
  | [] => none
  | [_] => none
  | t :: _ =>
    if (commonKeys ts).isEmpty then
      if allowDuplicates && allEquivalent ts then none
      else some (.conflict t.text none .noCommonKey)
    else firstClash? allowDuplicates (commonKeys ts) ts

/-- What is wrong with templates without constraints side by side, if anything. -/
def plainFault? (allowDuplicates : Bool) : List Template → Option DispatchError
  | a :: b :: _ =>
    if allowDuplicates then none else some (.conflict a.text (some b.text) .bothPlain)
  | _ => none

/-- The constrained templates, those with fewer constraints first. -/
def constrained (ts : List Template) : List Template :=
  (ts.filter fun t => !t.isPlain).mergeSort fun a b => a.queries.length ≤ b.queries.length

/-- **What is wrong with templates side by side**, if anything. -/
def groupFault? (allowDuplicates : Bool) (ts : List Template) : Option DispatchError :=
  (plainFault? allowDuplicates (ts.filter isPlain)).or
    (constrainedFault? allowDuplicates (constrained ts))

/-- **Checking templates that compete for the same paths.** -/
def checkGroup (allowDuplicates : Bool) (ts : List Template) : Except DispatchError Unit :=
  match groupFault? allowDuplicates ts with
  | some fault => .error fault
  | none => .ok ()

end Switchboard.Template
