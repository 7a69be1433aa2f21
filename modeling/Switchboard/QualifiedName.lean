import Switchboard.Text.Fields

/-!
# Qualified names

A message header is known by a namespace and a local name. A name is written `{namespace}local`, or
as the bare local name where the namespace is empty. Reading takes the namespace up to the **first**
closing brace, so that a namespace may hold an opening brace, and a local name holds no brace at
all.

Writing leaves out the braces of an empty namespace, so `{}To` and `To` are one name with one
written form.
-/

namespace Switchboard

/-- **A qualified name**: the namespace and the local name of a message header. -/
structure QualifiedName where
  /-- The namespace, empty for a bare name. -/
  space : String
  /-- The name inside its namespace. -/
  localName : String
deriving DecidableEq, Repr, Inhabited

namespace QualifiedName

/-- A local name holds at least one character and no brace. -/
def IsLocal (cs : List Char) : Prop :=
  cs ≠ [] ∧ '{' ∉ cs ∧ '}' ∉ cs

instance (cs : List Char) : Decidable (IsLocal cs) :=
  inferInstanceAs (Decidable (_ ∧ _ ∧ _))

/-- The namespace and the local name a text is made of, before the local name is looked at. -/
def halves? : List Char → Option (List Char × List Char)
  | '{' :: rest => Text.cut? '}' rest
  | cs => some ([], cs)

/-- **Reading a written name**; nothing if the text is no name. -/
def parse? (text : String) : Option QualifiedName :=
  match halves? text.toList with
  | some (space, name) =>
    if IsLocal name then some ⟨String.ofList space, String.ofList name⟩ else none
  | none => none

/-- The written form of a name. -/
def display (q : QualifiedName) : String :=
  if q.space = "" then q.localName
  else String.ofList ('{' :: q.space.toList ++ '}' :: q.localName.toList)

/-- Names are listed by namespace and then by local name, each by code points. -/
def atMost (a b : QualifiedName) : Bool :=
  if a.space = b.space then decide (a.localName ≤ b.localName) else decide (a.space ≤ b.space)

end QualifiedName

/-- A text that should have been a qualified name. -/
structure MalformedName where
  /-- The text as it was given. -/
  text : String
deriving DecidableEq, Repr

/-- What is said of a malformed name. -/
def MalformedName.message (e : MalformedName) : String :=
  s!"malformed qualified name '{e.text}'"

/-- Reading a written name, with the text kept for the report when it is none. -/
def QualifiedName.parse (text : String) : Except MalformedName QualifiedName :=
  match parse? text with
  | some q => .ok q
  | none => .error ⟨text⟩

/-- Reading written names in order, up to the first malformed one. -/
def QualifiedName.parseAll (texts : List String) : Except MalformedName (List QualifiedName) :=
  texts.mapM QualifiedName.parse

end Switchboard
