import Switchboard.Filter
import Switchboard.Template.Ambiguity
import Switchboard.Template.Compile
import Switchboard.Template.Match

/-!
# The template table

The table keeps templates in groups of one shape. A group comes into being with its first template
and goes with its last. A new template is checked together with all that compete for its paths,
wildcard templates of other lengths included, and is refused if a request could not tell them apart;
the table is then what it was.

A request is matched group by group. Of the templates in a group whose path matches, only those of
the most specific **tier** that has any answer. The path of a request must lie below the base path
of the table, and templates are matched against what is left of it.
-/

namespace Switchboard

/-- A registered template. -/
structure TemplateEntry (P : Type) where
  /-- The template. -/
  template : Template
  /-- What a matching request is answered with. -/
  payload : P

/-- The templates of one shape, in order of registration. -/
structure TemplateGroup (P : Type) where
  /-- The shape. -/
  shape : String
  /-- The templates. -/
  entries : List (TemplateEntry P)

/-- **The table of templates.** -/
structure TemplateTable (P : Type) where
  /-- Whether templates that ask the same may stand side by side. -/
  allowDuplicates : Bool := false
  /-- The decoded segments that the path of every request must start with. -/
  basePath : List String := []
  /-- The groups, in order of their coming into being. -/
  groups : List (TemplateGroup P) := []

/-- **An answer of the template table.** -/
structure TemplateMatch (P : Type) where
  /-- The payload of the template. -/
  payload : P
  /-- The template as it was written. -/
  template : String
  /-- What its names are bound to: those of the path, then those of the query. -/
  bindings : Bindings
deriving DecidableEq, Repr

/-- **How specific a match is**, by the query alone. -/
inductive Tier where
  /-- All constraints are answered and every captured key is there. -/
  | strict
  /-- All constraints are answered. -/
  | interesting
  /-- There are no constraints. -/
  | plain
deriving DecidableEq, Repr

/-- The tiers, most specific first. -/
def Tier.all : List Tier :=
  [.strict, .interesting, .plain]

/-- Whether a template matches a query in a tier. -/
def Tier.admits (query : Query) (t : Template) : Tier → Bool
  | .strict => t.matchesQuery query true
  | .interesting => t.matchesQuery query false
  | .plain => t.isPlain

namespace TemplateGroup

variable {P : Type}

/-- The templates of a group. -/
def templates (g : TemplateGroup P) : List Template :=
  g.entries.map TemplateEntry.template

/-- The entries whose path matches, with what it binds. -/
def pathHits (g : TemplateGroup P) (path : List String) : List (TemplateEntry P × Bindings) :=
  g.entries.filterMap fun e => (e.template.matchPath path).map (e, ·)

/-- The most specific tier in which any of the entries matches a query. -/
def tier? (query : Query) (hits : List (TemplateEntry P × Bindings)) : Option Tier :=
  Tier.all.find? fun tier => hits.any fun h => tier.admits query h.1.template

/-- The answer that an entry gives. -/
def answer (query : Query) (hit : TemplateEntry P × Bindings) : TemplateMatch P where
  payload := hit.1.payload
  template := hit.1.template.text
  bindings := hit.2 ++ hit.1.template.queryBindings query

/-- **The answers of a group** to a path and a query. -/
def matching (g : TemplateGroup P) (path : List String) (query : Query) : List (TemplateMatch P) :=
  let hits := g.pathHits path
  match tier? query hits with
  | none => []
  | some tier => (hits.filter fun h => tier.admits query h.1.template).map (answer query)

/-- The groups with an entry put behind those of its shape, in a group of its own if it is the
first. -/
def place (e : TemplateEntry P) : List (TemplateGroup P) → List (TemplateGroup P)
  | [] => [⟨e.template.shape, [e]⟩]
  | g :: gs =>
    if g.shape = e.template.shape then { g with entries := g.entries ++ [e] } :: gs
    else g :: place e gs

/-- The groups with the entries of a shape replaced; a group without entries goes. -/
def replace (shape : String) (entries : List (TemplateEntry P)) (gs : List (TemplateGroup P)) :
    List (TemplateGroup P) :=
  if entries.isEmpty then gs.filter fun g => g.shape ≠ shape
  else gs.map fun g => if g.shape = shape then { g with entries } else g

end TemplateGroup

namespace TemplateTable

variable {P : Type}

/-- The table without templates, for requests below a base path. -/
def empty (allowDuplicates : Bool) (basePath : Option String) : TemplateTable P where
  allowDuplicates := allowDuplicates
  basePath := (basePath.map Path.decodedSegments).getD []

/-- All templates, group by group. -/
def templates (t : TemplateTable P) : List Template :=
  t.groups.flatMap TemplateGroup.templates

/-- The texts of all templates, group by group. -/
def texts (t : TemplateTable P) : List String :=
  t.templates.map Template.text

/-- The number of templates. -/
def size (t : TemplateTable P) : Nat :=
  t.templates.length

/-- The number of groups. -/
def groupCount (t : TemplateTable P) : Nat :=
  t.groups.length

/-- Whether there is no template. -/
def isEmpty (t : TemplateTable P) : Bool :=
  t.size == 0

/-- The templates that compete with one for its paths. -/
def rivals (t : TemplateTable P) (template : Template) : List Template :=
  t.templates.filter fun other => other.sharesShape template

/-- Registers a compiled template. -/
def addTemplate (t : TemplateTable P) (template : Template) (payload : P) :
    Except DispatchError (TemplateTable P) := do
  Template.checkGroup t.allowDuplicates (t.rivals template ++ [template])
  return { t with groups := TemplateGroup.place ⟨template, payload⟩ t.groups }

/-- **Registering a template.** -/
def add (t : TemplateTable P) (text : String) (payload : P) :
    Except DispatchError (TemplateTable P) := do
  t.addTemplate (← Template.compile text) payload

/-- Whether an entry was registered under exactly a text. -/
def isWritten (text : String) (e : TemplateEntry P) : Bool :=
  e.template.text = text

/-- **Removing the first registration of exactly a text**; nothing if there is none. What is left of
its group is checked again. -/
def remove? (t : TemplateTable P) (text : String) :
    Except DispatchError (Option (TemplateTable P)) := do
  let template ← Template.compile text
  match t.groups.find? fun g => g.shape = template.shape with
  | none => return none
  | some g =>
    if !g.entries.any (isWritten text) then return none
    let rest := g.entries.eraseP (isWritten text)
    Template.checkGroup t.allowDuplicates (rest.map TemplateEntry.template)
    return some { t with groups := TemplateGroup.replace g.shape rest t.groups }

/-- What is left of a path below a base, compared up to ASCII case. -/
def below : (base path : List String) → Option (List String)
  | [], path => some path
  | _ :: _, [] => none
  | b :: base, p :: path => if Ascii.Same p b then below base path else none

/-- **The answers to a path and a query**, group by group. -/
def matching (t : TemplateTable P) (path : String) (query : Query) : List (TemplateMatch P) :=
  match below t.basePath (Path.decodedSegments path) with
  | none => []
  | some rest => t.groups.flatMap fun g => g.matching rest query

/-- The table without its templates. -/
def cleared (t : TemplateTable P) : TemplateTable P :=
  { t with groups := [] }

end TemplateTable

end Switchboard
