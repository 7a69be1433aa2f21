import Switchboard.CandidateSet
import Switchboard.PrefixIndex

/-!
# The address table

The table files candidate sets under addresses. A destination is served by the set of the longest
filed address at or above it, and a request is answered with the payloads of that set's candidates
whose headers it carries.

The **lookup policy** says which host modes are consulted and in which order. The first mode that
has any set for the destination decides, even if none of its candidates answers.

A filter is registered at most once. Equality of filters takes in the address as written, so filters
that differ only in the case of a path share a set and are still two.
-/

namespace Switchboard

/-- **Which registrations a lookup consults**, and in which order. -/
inductive HostLookup where
  /-- Those with a host, and those for any host only if nothing was found. -/
  | exactThenWildcard
  /-- Only those with a host. -/
  | exactOnly
  /-- Only those for any host. -/
  | wildcardOnly
deriving DecidableEq, Repr

/-- The host modes a lookup consults, in order. -/
def HostLookup.modes : HostLookup → List HostMode
  | .exactThenWildcard => [.exact, .anyHost]
  | .exactOnly => [.exact]
  | .wildcardOnly => [.anyHost]

/-- **The table of address filters.** -/
structure AddressTable (P : Type) where
  /-- The lookup policy. -/
  lookup : HostLookup := .exactThenWildcard
  /-- The candidate sets by address. -/
  index : PrefixIndex (CandidateSet P) := {}
  /-- The number of registered filters. -/
  size : Nat := 0

namespace AddressTable

variable {P : Type}

/-- The table without registrations. -/
def empty (lookup : HostLookup) : AddressTable P :=
  { lookup }

/-- Whether nothing is registered. -/
def isEmpty (t : AddressTable P) : Bool :=
  t.size == 0

/-- The number of candidate sets. -/
def setCount (t : AddressTable P) : Nat :=
  t.index.size

/-- The candidate set filed under a filter's address, empty if there is none. -/
def setOf (t : AddressTable P) (f : AddressFilter) : CandidateSet P :=
  (t.index.get? f.address f.mode).getD .empty

/-- **Registering a filter.** -/
def add (t : AddressTable P) (f : AddressFilter) (payload : P) :
    Except DispatchError (AddressTable P) :=
  if (t.setOf f).contains f then .error (.duplicateFilter f.display)
  else .ok { t with
    index := t.index.file f.address f.mode ((t.setOf f).add f payload)
    size := t.size + 1 }

/-- The index without a filter whose set is left with `rest`; an empty set is not kept. -/
def indexWithout (t : AddressTable P) (f : AddressFilter) (rest : CandidateSet P) :
    PrefixIndex (CandidateSet P) :=
  if rest.isEmpty then t.index.clear f.address f.mode
  else t.index.file f.address f.mode rest

/-- **Removing a filter**; nothing if it is not registered. -/
def remove? (t : AddressTable P) (f : AddressFilter) : Option (AddressTable P) :=
  ((t.setOf f).remove? f).map fun rest =>
    { t with index := t.indexWithout f rest, size := t.size - 1 }

/-- **The candidate set that serves a destination** under the lookup policy. -/
def setFor? (t : AddressTable P) (destination : Address) : Option (CandidateSet P) :=
  t.lookup.modes.findSome? (t.index.lookup? destination)

/-- **The payloads that answer a request**, in order of registration. -/
def matching (t : AddressTable P) (r : Request) : List P :=
  match t.setFor? r.destination with
  | some set => (set.matching r.headers).map Candidate.payload
  | none => []

/-- The table without its registrations. -/
def cleared (t : AddressTable P) : AddressTable P :=
  empty t.lookup

end AddressTable

/-- The one element of a list, nothing if it is empty, and a refusal if there are several. -/
def single {α : Type} : List α → Except DispatchError (Option α)
  | [] => .ok none
  | [x] => .ok (some x)
  | xs => .error (.multipleMatches xs.length)

end Switchboard
