import Switchboard.AddressTable
import Switchboard.Metrics
import Switchboard.TemplateTable

/-!
# The tables, counted

The operations of the two tables together with what they count, each count where its case is
decided. A registration is counted once it was taken. A refusal counts nothing, except that a template
which the check refuses is counted as ambiguous. A request is counted as one without an answer as soon
as no set serves its destination or its path lies outside the base path; otherwise it is counted by the
number of answers found, also where a single one was asked for and there were several.
-/

namespace Switchboard

namespace AddressTable

variable {P : Type}

/-- Registers a filter and counts it. -/
def addM (t : AddressTable P) (f : AddressFilter) (payload : P) :
    Metered (Except DispatchError (AddressTable P)) := do
  match t.add f payload with
  | .error e => return .error e
  | .ok t =>
    modify fun m => (m.registered .address).sized t.setCount
    return .ok t

/-- Registers a filter of any kind and counts it; only those for prefixes are accepted. -/
def addFilterM (t : AddressTable P) (f : MessageFilter) (payload : P) :
    Metered (Except DispatchError (AddressTable P)) :=
  match f.forAddresses with
  | .error e => return .error e
  | .ok f => t.addM f payload

/-- Removes a filter and counts the sets that are left. -/
def removeM (t : AddressTable P) (f : AddressFilter) : Metered (Option (AddressTable P)) := do
  match t.remove? f with
  | none => return none
  | some t =>
    modify (Metrics.sized t.setCount)
    return some t

/-- Removes a filter of any kind; only those for prefixes are accepted. -/
def removeFilterM (t : AddressTable P) (f : MessageFilter) :
    Metered (Except DispatchError (Option (AddressTable P))) :=
  match f.forAddresses with
  | .error e => return .error e
  | .ok f => do return .ok (← t.removeM f)

/-- Answers a request and counts it; where no set serves its destination, as one without an answer. -/
def matchM (t : AddressTable P) (r : Request) : Metered (List P) := do
  match t.setFor? r.destination with
  | none =>
    modify (Metrics.requested .address 0)
    return []
  | some set =>
    let found := (set.matching r.headers).map Candidate.payload
    modify (Metrics.requested .address found.length)
    return found

/-- Answers a request with at most one payload and counts it. -/
def matchSingleM (t : AddressTable P) (r : Request) :
    Metered (Except DispatchError (Option P)) := do
  return single (← t.matchM r)

/-- Drops every registration. -/
def clearM (t : AddressTable P) : Metered (AddressTable P) := do
  modify (Metrics.sized 0)
  return t.cleared

end AddressTable

namespace TemplateTable

variable {P : Type}

/-- Registers a template and counts it. A text that is no template is refused before anything is
counted; a template that the check refuses is counted as ambiguous. -/
def addM (t : TemplateTable P) (text : String) (payload : P) :
    Metered (Except DispatchError (TemplateTable P)) := do
  match Template.compile text with
  | .error e => return .error e
  | .ok template =>
    match t.addTemplate template payload with
    | .error e =>
      modify Metrics.conflicted
      return .error e
    | .ok t =>
      modify (Metrics.registered .template)
      return .ok t

/-- Registers a filter of any kind and counts it; only templates are accepted. -/
def addFilterM (t : TemplateTable P) (f : MessageFilter) (payload : P) :
    Metered (Except DispatchError (TemplateTable P)) :=
  match f.forTemplates with
  | .error e => return .error e
  | .ok text => t.addM text payload

/-- Removes a filter of any kind; only templates are accepted. -/
def removeFilter? (t : TemplateTable P) (f : MessageFilter) :
    Except DispatchError (Option (TemplateTable P)) :=
  f.forTemplates >>= t.remove?

/-- Answers a path and a query and counts the request; where the path lies outside the base path, as
one without an answer. -/
def matchM (t : TemplateTable P) (path : String) (query : Query) :
    Metered (List (TemplateMatch P)) := do
  match below t.basePath (Path.decodedSegments path) with
  | none =>
    modify (Metrics.requested .template 0)
    return []
  | some rest =>
    let found := t.groups.flatMap fun g => g.matching rest query
    modify (Metrics.requested .template found.length)
    return found

/-- Answers a path and a query with at most one match and counts the request. -/
def matchSingleM (t : TemplateTable P) (path : String) (query : Query) :
    Metered (Except DispatchError (Option (TemplateMatch P))) := do
  return single (← t.matchM path query)

/-- Answers a request by its path and query and counts it. -/
def matchRequestM (t : TemplateTable P) (r : Request) : Metered (List (TemplateMatch P)) :=
  t.matchM r.destination.path r.query

end TemplateTable

end Switchboard
