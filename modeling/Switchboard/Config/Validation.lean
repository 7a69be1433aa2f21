import Switchboard.Config.Basic
import Switchboard.SocketAddress
import Switchboard.Text.Blank

/-!
# Checking configurations

A check reports **every** problem of a configuration and stops at none: a metrics address that is no
socket address where metrics are offered, names that are blank or were used before, addresses and
header names that cannot be read, and blank templates. Names of endpoints and names of operations
are apart. Whether templates compile and can be told apart is left to the table.
-/

namespace Switchboard.Config

/-- **A problem of a configuration.** -/
structure Problem where
  /-- Where it is. -/
  field : String
  /-- What it is. -/
  message : String
deriving DecidableEq, Repr

/-- The written form of a problem. -/
def Problem.display (p : Problem) : String :=
  s!"{p.field}: {p.message}"

/-- The problem of the metrics settings. -/
def metricsProblems (c : MetricsConfig) : List Problem :=
  if c.enabled && !SocketAddress.isWritten c.address then
    [⟨"observability.metrics_address", s!"'{c.address}' is not a socket address"⟩]
  else []

/-- The problem of a name, given the kind of thing it names and the names of that kind before it. -/
def nameProblems (field kind : String) (earlier : List String) (name : String) : List Problem :=
  if Text.isBlank name then [⟨s!"{field}.name", "must not be empty"⟩]
  else if earlier.contains name then [⟨s!"{field}.name", s!"duplicate {kind} name '{name}'"⟩]
  else []

/-- The problem of an address. -/
def addressProblems (field address : String) : List Problem :=
  match Address.parse address with
  | .ok _ => []
  | .error e => [⟨s!"{field}.address", e.message⟩]

/-- The problems of header names, the first of which has number `j`. -/
def headerProblems (field : String) (j : Nat) : List String → List Problem
  | [] => []
  | header :: headers =>
    (match QualifiedName.parse header with
      | .ok _ => []
      | .error e => [⟨s!"{field}.required_headers[{j}]", e.message⟩]) ++
    headerProblems field (j + 1) headers

/-- The problems of endpoints, the first of which has number `i`, after endpoints with the given
names. -/
def endpointProblems (i : Nat) (earlier : List String) : List EndpointConfig → List Problem
  | [] => []
  | e :: es =>
    let field := s!"endpoints[{i}]"
    nameProblems field "endpoint" earlier e.name ++ addressProblems field e.address ++
      headerProblems field 0 e.requiredHeaders ++ endpointProblems (i + 1) (e.name :: earlier) es

/-- The problem of a template. -/
def templateProblems (field template : String) : List Problem :=
  if Text.isBlank template then [⟨s!"{field}.template", "must not be empty"⟩] else []

/-- The problems of operations, the first of which has number `i`, after those with the given
names. -/
def operationProblems (i : Nat) (earlier : List String) : List OperationConfig → List Problem
  | [] => []
  | o :: os =>
    let field := s!"templates[{i}]"
    nameProblems field "template" earlier o.name ++ templateProblems field o.template ++
      operationProblems (i + 1) (o.name :: earlier) os

/-- **All problems of a configuration**, in order. -/
def problems (c : Config) : List Problem :=
  metricsProblems c.metrics ++ endpointProblems 0 [] c.endpoints ++
    operationProblems 0 [] c.operations

end Switchboard.Config
