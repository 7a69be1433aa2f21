import Switchboard.AddressTable

/-!
# Configurations

What a dispatcher is built from: endpoints for the address table, operations for the template table,
and settings for matching, logging and metrics. Every setting has a default; an endpoint must have a
name and an address, an operation a name and a template.
-/

namespace Switchboard

/-- How log lines are written. -/
structure LoggingConfig where
  /-- The least level that is logged. -/
  level : String := "info"
  /-- Whether lines are written as JSON. -/
  json : Bool := false
deriving DecidableEq, Repr

/-- How metrics are offered. -/
structure MetricsConfig where
  /-- Whether they are offered at all. -/
  enabled : Bool := false
  /-- The socket address at which they are. -/
  address : String := "0.0.0.0:9090"
deriving DecidableEq, Repr

/-- How the tables match. -/
structure MatchingConfig where
  /-- Whether templates that ask the same may stand side by side. -/
  allowDuplicates : Bool := false
  /-- Which registrations a destination is looked up in. -/
  hostLookup : HostLookup := .exactThenWildcard
  /-- The path below which templates are matched. -/
  basePath : Option String := none
deriving DecidableEq, Repr

/-- An endpoint, registered in the address table. -/
structure EndpointConfig where
  /-- The name, with which requests are answered. -/
  name : String
  /-- The address as written. -/
  address : String
  /-- Whether the host of the address counts. -/
  includeHost : Bool := true
  /-- The headers a message must carry, as written. -/
  requiredHeaders : List String := []
deriving DecidableEq, Repr

/-- An operation, registered in the template table. -/
structure OperationConfig where
  /-- The name, with which requests are answered. -/
  name : String
  /-- The template as written. -/
  template : String
deriving DecidableEq, Repr

/-- **A configuration.** -/
structure Config where
  /-- How log lines are written. -/
  logging : LoggingConfig := {}
  /-- How metrics are offered. -/
  metrics : MetricsConfig := {}
  /-- How the tables match. -/
  matching : MatchingConfig := {}
  /-- The endpoints, in order of registration. -/
  endpoints : List EndpointConfig := []
  /-- The operations, in order of registration. -/
  operations : List OperationConfig := []
deriving DecidableEq, Repr

/-- The directive that sets the level of this program's log lines. -/
def LoggingConfig.directive (c : LoggingConfig) : String :=
  s!"soap_dispatch={c.level}"

end Switchboard
