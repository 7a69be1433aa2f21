import Switchboard.Config.Basic
import Switchboard.Toml.Document

/-!
# Configurations from documents

A configuration is written as a TOML document. Keys that mean nothing are passed over; a value of
the wrong kind, or a name, address or template that is missing, makes the document no configuration.

A group of settings is a table, or an array of its values in their fixed order, which may stop
early. A moment of time stands for a group without settings.
-/

namespace Switchboard.Config

open Toml (Value Entries)

/-- **A field that is missing or of the wrong kind.** -/
structure Misfit where
  /-- The name of the field. -/
  field : String
deriving DecidableEq, Repr

/-- The settings of a group by name. -/
abbrev Group := String → Option Value

/-- A value as a group whose settings have the given names, in this order. -/
def group? (names : List String) : Value → Option Group
  | .table _ entries => some fun name => Assoc.get? name entries
  | .array _ items => some fun name => (names.idxOf? name).bind fun i => items[i]?
  | .moment _ => some fun _ => none
  | _ => none

/-- A value as a text. -/
def string? : Value → Option String
  | .string text => some text
  | _ => none

/-- A value as a truth value. -/
def bool? : Value → Option Bool
  | .boolean b => some b
  | _ => none

/-- A value as a list. -/
def list? {α : Type} (item? : Value → Option α) : Value → Option (List α)
  | .array _ items => items.mapM item?
  | _ => none

/-- The lookup policy of a name. -/
def lookupOfName? (name : String) : Option HostLookup :=
  if name = "exact_then_wildcard" then some .exactThenWildcard
  else if name = "exact_only" then some .exactOnly
  else if name = "wildcard_only" then some .wildcardOnly
  else none

/-- Whether a value is a table or an array that holds nothing. -/
def isHollow : Value → Bool
  | .table _ entries => entries.isEmpty
  | .array _ items => items.isEmpty
  | _ => false

/-- A value as a lookup policy: its name, or a table with the name as its only key and nothing in
it. -/
def lookup? : Value → Option HostLookup
  | .string name => lookupOfName? name
  | .table _ [(name, v)] => if isHollow v then lookupOfName? name else none
  | _ => none

/-- A setting that may be missing. -/
def setting {α : Type} (g : Group) (name : String) (read? : Value → Option α) (default : α) :
    Except Misfit α :=
  match g name with
  | none => .ok default
  | some v => (read? v).elim (.error ⟨name⟩) .ok

/-- A setting that must be there. -/
def required {α : Type} (g : Group) (name : String) (read? : Value → Option α) :
    Except Misfit α :=
  match (g name).bind read? with
  | some a => .ok a
  | none => .error ⟨name⟩

/-- A setting that is a group of its own, or missing. -/
def subgroup {α : Type} (g : Group) (name : String) (names : List String)
    (read : Group → Except Misfit α) : Except Misfit α :=
  match g name with
  | none => read fun _ => none
  | some v => (group? names v).elim (.error ⟨name⟩) read

/-- A setting that is a list of groups, or missing. -/
def subgroups {α : Type} (g : Group) (name : String) (names : List String)
    (read : Group → Except Misfit α) : Except Misfit (List α) := do
  let groups ← setting g name (list? (group? names)) []
  groups.mapM read

/-- The settings for logging. -/
def readLogging (g : Group) : Except Misfit LoggingConfig := do
  return {
    level := ← setting g "level" string? "info"
    json := ← setting g "json" bool? false }

/-- The settings for metrics. -/
def readMetrics (g : Group) : Except Misfit MetricsConfig := do
  return {
    enabled := ← setting g "metrics_enabled" bool? false
    address := ← setting g "metrics_address" string? "0.0.0.0:9090" }

/-- The settings for matching. -/
def readMatching (g : Group) : Except Misfit MatchingConfig := do
  return {
    allowDuplicates := ← setting g "allow_duplicate_templates" bool? false
    hostLookup := ← setting g "host_lookup" lookup? .exactThenWildcard
    basePath := ← setting g "base_path" (fun v => (string? v).map some) none }

/-- An endpoint. -/
def readEndpoint (g : Group) : Except Misfit EndpointConfig := do
  return {
    name := ← required g "name" string?
    address := ← required g "address" string?
    includeHost := ← setting g "include_host_name" bool? true
    requiredHeaders := ← setting g "required_headers" (list? string?) [] }

/-- An operation. -/
def readOperation (g : Group) : Except Misfit OperationConfig := do
  return {
    name := ← required g "name" string?
    template := ← required g "template" string? }

/-- **The configuration that a document writes down.** -/
def ofEntries (entries : Entries) : Except Misfit Config := do
  let g : Group := fun name => Assoc.get? name entries
  return {
    logging := ← subgroup g "logging" ["level", "json"] readLogging
    metrics := ← subgroup g "observability" ["metrics_enabled", "metrics_address"] readMetrics
    matching := ← subgroup g "matching"
      ["allow_duplicate_templates", "host_lookup", "base_path"] readMatching
    endpoints := ← subgroups g "endpoints"
      ["name", "address", "include_host_name", "required_headers"] readEndpoint
    operations := ← subgroups g "templates" ["name", "template"] readOperation }

/-- What is said of a field that does not fit. -/
def Misfit.message (m : Misfit) : String :=
  s!"field '{m.field}' is missing or has the wrong type"

end Switchboard.Config
