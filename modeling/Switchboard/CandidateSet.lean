import Switchboard.Filter
import Switchboard.MaskAllocator

/-!
# Candidate sets

All registrations under one address form a candidate set. Its candidates stand in order of
registration, and each has a mask of the headers it requires, in the positions that the set's
allocator gives out. A request is given a mask of the headers it carries, and a candidate answers
when its mask lies inside the request's.

Adding and removing number the headers anew and rebuild every mask, so that positions stay dense and
follow from the candidates alone.
-/

namespace Switchboard

/-- **A registration**: a filter with its payload. -/
structure Candidate (P : Type) where
  /-- The filter. -/
  filter : AddressFilter
  /-- What a matching request is answered with. -/
  payload : P
  /-- The positions of the required headers. -/
  mask : HeaderMask

/-- **The registrations under one address.** -/
structure CandidateSet (P : Type) where
  /-- The candidates, in order of registration. -/
  candidates : List (Candidate P) := []
  /-- The positions of their headers. -/
  allocator : MaskAllocator := {}

namespace CandidateSet

variable {P : Type}

/-- The set without candidates. -/
def empty : CandidateSet P :=
  {}

/-- The number of candidates. -/
def size (s : CandidateSet P) : Nat :=
  s.candidates.length

/-- Whether there is no candidate. -/
def isEmpty (s : CandidateSet P) : Bool :=
  s.candidates.isEmpty

/-- Whether an equal filter is registered. -/
def contains (s : CandidateSet P) (f : AddressFilter) : Bool :=
  s.candidates.any fun c => c.filter = f

/-- The headers required by each candidate. -/
def requirements (s : CandidateSet P) : List (List QualifiedName) :=
  s.candidates.map fun c => c.filter.required

/-- **Numbers the headers anew** and rebuilds every mask. -/
def rebuild (s : CandidateSet P) : CandidateSet P :=
  let allocator := s.allocator.rebuild s.requirements
  { candidates := s.candidates.map fun c => { c with mask := allocator.maskFor c.filter.required }
    allocator }

/-- **Adding a candidate** behind the others. -/
def add (s : CandidateSet P) (f : AddressFilter) (payload : P) : CandidateSet P :=
  rebuild {
    candidates := s.candidates ++ [{ filter := f, payload, mask := {} }]
    allocator := s.allocator.retain f.required }

/-- **Removing the first candidate with an equal filter**; nothing if there is none. -/
def remove? (s : CandidateSet P) (f : AddressFilter) : Option (CandidateSet P) :=
  if s.contains f then
    some (rebuild {
      candidates := s.candidates.eraseP fun c => c.filter = f
      allocator := s.allocator.release f.required })
  else none

/-- **The candidates that a request's headers satisfy**, in order of registration. -/
def matching (s : CandidateSet P) (headers : List QualifiedName) : List (Candidate P) :=
  let present := s.allocator.maskFor headers
  s.candidates.filter fun c => c.mask.isSubset present

end CandidateSet

end Switchboard
