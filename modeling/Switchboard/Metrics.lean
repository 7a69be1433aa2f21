/-!
# Metrics

What the tables count: registrations that were accepted and requests by how many answers they found,
each by table; templates that were refused as ambiguous; and, as a gauge, the number of candidate
sets. A counter that was never raised is not shown, nor is the gauge before it is first set.
-/

namespace Switchboard

/-- The two tables, as metrics tell them apart. -/
inductive Engine where
  /-- The address table. -/
  | address
  /-- The template table. -/
  | template
deriving DecidableEq, Repr

/-- How many answers a request found. -/
inductive Outcome where
  /-- None. -/
  | miss
  /-- One. -/
  | hit
  /-- Several. -/
  | multiple
deriving DecidableEq, Repr

/-- The outcome of a request with a number of answers. -/
def Outcome.ofCount : Nat → Outcome
  | 0 => .miss
  | 1 => .hit
  | _ => .multiple

/-- **What is counted for one table.** -/
structure Tally where
  /-- Registrations that were accepted. -/
  registrations : Nat := 0
  /-- Requests without an answer. -/
  misses : Nat := 0
  /-- Requests with one answer. -/
  hits : Nat := 0
  /-- Requests with several answers. -/
  multiples : Nat := 0
deriving DecidableEq, Repr

/-- One more registration. -/
def Tally.registered (t : Tally) : Tally :=
  { t with registrations := t.registrations + 1 }

/-- One more request. -/
def Tally.requested (t : Tally) : Outcome → Tally
  | .miss => { t with misses := t.misses + 1 }
  | .hit => { t with hits := t.hits + 1 }
  | .multiple => { t with multiples := t.multiples + 1 }

/-- **All that is counted.** -/
structure Metrics where
  /-- The counts of the address table. -/
  address : Tally := {}
  /-- The counts of the template table. -/
  template : Tally := {}
  /-- Templates refused as ambiguous. -/
  conflicts : Nat := 0
  /-- The number of candidate sets, once it was set. -/
  candidateSets : Option Nat := none
deriving DecidableEq, Repr

/-- Computations that count. -/
abbrev Metered (α : Type) := StateM Metrics α

namespace Metrics

/-- The metrics with the counts of a table changed. -/
def onTally (m : Metrics) (f : Tally → Tally) : Engine → Metrics
  | .address => { m with address := f m.address }
  | .template => { m with template := f m.template }

/-- Counts an accepted registration. -/
def registered (engine : Engine) (m : Metrics) : Metrics :=
  m.onTally Tally.registered engine

/-- Counts a request that found a number of answers. -/
def requested (engine : Engine) (answers : Nat) (m : Metrics) : Metrics :=
  m.onTally (·.requested (.ofCount answers)) engine

/-- Counts a template refused as ambiguous. -/
def conflicted (m : Metrics) : Metrics :=
  { m with conflicts := m.conflicts + 1 }

/-- Sets the number of candidate sets. -/
def sized (sets : Nat) (m : Metrics) : Metrics :=
  { m with candidateSets := some sets }

/-- The shown name of a count of registrations. -/
def registrationsName (engine : String) : String :=
  "dispatch_registrations_total\x7bengine=\"" ++ engine ++ "\"\x7d"

/-- The shown name of a count of requests. -/
def requestsName (engine outcome : String) : String :=
  "dispatch_requests_total\x7bengine=\"" ++ engine ++ "\",outcome=\"" ++ outcome ++ "\"\x7d"

/-- The counts of a table with their shown names. -/
def tallySeries (engine : String) (t : Tally) : List (String × Nat) :=
  [(registrationsName engine, t.registrations), (requestsName engine "miss", t.misses),
    (requestsName engine "hit", t.hits), (requestsName engine "multiple", t.multiples)]

/-- **What is shown**: each counter that was raised, and the gauge once it was set. -/
def series (m : Metrics) : List (String × Nat) :=
  let counters := tallySeries "address" m.address ++ tallySeries "template" m.template ++
    [("dispatch_conflicts_total", m.conflicts)]
  counters.filter (·.2 ≠ 0) ++ (m.candidateSets.map ("dispatch_candidate_sets", ·)).toList

end Metrics

end Switchboard
