import Switchboard.Config.Load
import Switchboard.Metered

/-!
# Dispatchers

A dispatcher holds both tables, filled from a configuration: the endpoints, then the operations,
each in the order of the configuration. The first entry that is refused ends the building, and there
is no dispatcher; what was counted until then stays counted.

A dispatcher is a value. Replacing the live one by one that was built from a new configuration
leaves whoever still holds the old one with the old one, and a configuration that is refused changes
nothing.
-/

namespace Switchboard

/-- **Both tables**, answering with configured names. -/
structure Dispatcher where
  /-- The endpoints. -/
  addresses : AddressTable String
  /-- The operations. -/
  templates : TemplateTable String

/-- Building, which counts and can fail. -/
abbrev Building (α : Type) := ExceptT ConfigError (StateM Metrics) α

namespace Dispatcher

/-- The filter of an endpoint, or why it has none. -/
def filterOf (e : EndpointConfig) : Except ConfigError AddressFilter :=
  match QualifiedName.parseAll e.requiredHeaders with
  | .error malformed =>
    .error (.invalid [⟨s!"endpoints.{e.name}.required_headers", malformed.message⟩])
  | .ok headers =>
    (AddressFilter.parse e.address e.includeHost headers).mapError (.refused e.name)

/-- Registers an endpoint. -/
def addEndpoint (t : AddressTable String) (e : EndpointConfig) : Building (AddressTable String) :=
  match filterOf e with
  | .error err => throw err
  | .ok f => ExceptT.mk ((·.mapError (.refused e.name)) <$> t.addM f e.name)

/-- Registers an operation. -/
def addOperation (t : TemplateTable String) (o : OperationConfig) :
    Building (TemplateTable String) :=
  ExceptT.mk ((·.mapError (.refused o.name)) <$> t.addM o.template o.name)

/-- **Building a dispatcher** from a configuration. -/
def ofConfig (c : Config) : Building Dispatcher := do
  let addresses ← c.endpoints.foldlM addEndpoint (.empty c.matching.hostLookup)
  let templates ← c.operations.foldlM addOperation
    (.empty c.matching.allowDuplicates c.matching.basePath)
  return { addresses, templates }

/-- **The endpoints that a request goes to.** -/
def resolve (d : Dispatcher) (r : Request) : Metered (List String) :=
  d.addresses.matchM r

/-- **The operations that a path and a query ask for.** -/
def route (d : Dispatcher) (path : String) (query : Query) :
    Metered (List (TemplateMatch String)) :=
  d.templates.matchM path query

/-- **Replacing the live dispatcher** by one built from a configuration: the new one, or the old one
and why there is no new one. -/
def replace (d : Dispatcher) (c : Config) : Metered (Dispatcher × Except ConfigError Unit) := do
  match ← (ofConfig c).run with
  | .ok next => return (next, .ok ())
  | .error e => return (d, .error e)

end Dispatcher

end Switchboard
