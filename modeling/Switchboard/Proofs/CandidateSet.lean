import Switchboard.CandidateSet
import Switchboard.Proofs.MaskAllocator

/-!
# What a candidate set answers

A candidate set keeps masks so that it need not compare header names. Its meaning is the list of
its **registrations** – filters and payloads, in order – and this module shows that the masks are
never seen: a set answers with the registrations whose headers are all among those of the request
(`payloads_matching`).

Two names have two positions, so inclusion of masks is inclusion of names. That holds of a set
that is `Synced`: its allocator counts what its candidates declare, numbers the names by first
occurrence, and every mask is the one the allocator gives. A rebuild makes a set synced as soon as
the counts are right, and adding and removing end in a rebuild.
-/

namespace Switchboard

/-- **A registration**: a filter and what a request that it lets through is answered with. -/
structure Registration (P : Type) where
  /-- The filter. -/
  filter : AddressFilter
  /-- The payload. -/
  payload : P

namespace CandidateSet

variable {P : Type}

/-- **The registrations of a set**, in order. -/
def registrations (s : CandidateSet P) : List (Registration P) :=
  s.candidates.map fun c => ⟨c.filter, c.payload⟩

theorem requirements_eq (s : CandidateSet P) :
    s.requirements = s.registrations.map fun e => e.filter.required := by
  unfold requirements registrations
  rw [List.map_map]
  rfl

@[simp] theorem registrations_empty : (empty : CandidateSet P).registrations = [] := rfl

/-- Rebuilding the masks changes no registration. -/
@[simp] theorem registrations_rebuild (s : CandidateSet P) :
    s.rebuild.registrations = s.registrations := by
  unfold registrations rebuild
  rw [List.map_map]
  rfl

/-- **Adding puts a registration behind the others.** -/
@[simp] theorem registrations_add (s : CandidateSet P) (f : AddressFilter) (payload : P) :
    (s.add f payload).registrations = s.registrations ++ [⟨f, payload⟩] := by
  rw [add, registrations_rebuild]
  unfold registrations
  rw [List.map_append]
  rfl

/-- A filter is contained when a registration has it. -/
theorem contains_eq (s : CandidateSet P) (f : AddressFilter) :
    s.contains f = s.registrations.any fun e => e.filter = f := by
  unfold contains registrations
  rw [List.any_map]
  rfl

/-- **Removing takes the first registration with the filter**, if there is one. -/
theorem map_registrations_remove? (s : CandidateSet P) (f : AddressFilter) :
    (s.remove? f).map registrations
      = if s.contains f then some (s.registrations.eraseP fun e => e.filter = f) else none := by
  unfold remove?
  by_cases h : s.contains f = true
  · rw [if_pos h, if_pos h, Option.map_some, registrations_rebuild]
    unfold registrations
    rw [List.eraseP_map]
    rfl
  · rw [if_neg h, if_neg h, Option.map_none]

/-- A set is empty when it has no registration. -/
theorem isEmpty_eq (s : CandidateSet P) : s.isEmpty = s.registrations.isEmpty := by
  unfold isEmpty registrations
  rw [List.isEmpty_map]

/-! ## Masks that follow the candidates -/

/-- **The masks follow the candidates.** -/
structure Synced (s : CandidateSet P) : Prop where
  /-- A name is counted once for every candidate that declares it. -/
  counts : s.allocator.Counts s.requirements
  /-- Names are numbered by first occurrence. -/
  bits : ∀ n, s.allocator.bit? n = (distinct s.requirements.flatten).idxOf? n
  /-- A mask holds the positions of the headers its candidate declares. -/
  masks : ∀ c ∈ s.candidates, c.mask = s.allocator.maskFor c.filter.required

theorem synced_empty : (empty : CandidateSet P).Synced where
  counts := ⟨MaskAllocator.counting_empty, fun _ => rfl⟩
  bits := fun _ => rfl
  masks := fun _ h => absurd h List.not_mem_nil

/-- **A rebuild makes the masks follow** as soon as the counts are right. -/
theorem synced_rebuild {s : CandidateSet P} (h : s.allocator.Counts s.requirements) :
    s.rebuild.Synced := by
  have hreq : s.rebuild.requirements = s.requirements := by
    rw [requirements_eq, requirements_eq, registrations_rebuild]
  refine ⟨⟨h.1.rebuild _, fun n => ?_⟩, fun n => ?_, fun c hc => ?_⟩
  · show (s.allocator.rebuild s.requirements).refs n = _
    rw [MaskAllocator.refs_rebuild, hreq]
    exact h.2 n
  · show (s.allocator.rebuild s.requirements).bit? n = _
    rw [MaskAllocator.bit?_rebuild h, hreq]
  · obtain ⟨c', -, rfl⟩ := List.mem_map.mp hc
    rfl

/-- **The counts follow a candidate that is added.** -/
theorem Synced.counts_add {s : CandidateSet P} (h : s.Synced) (f : AddressFilter) (payload : P) :
    (s.allocator.retain f.required).Counts
      ((s.candidates ++ [(⟨f, payload, {}⟩ : Candidate P)]).map fun c => c.filter.required) := by
  refine ⟨h.counts.1.retain _, fun n => ?_⟩
  rw [MaskAllocator.refs_retain, h.counts.2 n, List.map_append, List.flatten_append,
    List.count_append]
  simp [requirements]

/-- **The counts follow a candidate that is removed.** The one that goes declares what is released,
since its filter is the one removed. -/
theorem Synced.counts_remove {s : CandidateSet P} (h : s.Synced) {f : AddressFilter}
    (hcontains : s.contains f = true) :
    (s.allocator.release f.required).Counts
      ((s.candidates.eraseP fun c => c.filter = f).map fun c => c.filter.required) := by
  refine ⟨h.counts.1.release _, fun n => ?_⟩
  obtain ⟨c, hc, hcf⟩ := List.any_eq_true.mp hcontains
  obtain ⟨c', before, behind, -, hc'f, hsplit, herase⟩ :=
    @List.exists_of_eraseP _ (fun c : Candidate P => decide (c.filter = f)) _ _ hc hcf
  have hfilter : c'.filter = f := of_decide_eq_true hc'f
  rw [MaskAllocator.refs_release, h.counts.2 n, herase, requirements, hsplit]
  simp only [List.map_append, List.map_cons, List.flatten_append, List.flatten_cons,
    List.count_append, hfilter]
  omega

/-- **Adding keeps the masks in step.** -/
theorem Synced.add {s : CandidateSet P} (h : s.Synced) (f : AddressFilter) (payload : P) :
    (s.add f payload).Synced :=
  synced_rebuild (h.counts_add f payload)

/-- **Removing keeps the masks in step.** -/
theorem Synced.remove? {s rest : CandidateSet P} (h : s.Synced) {f : AddressFilter}
    (hrest : s.remove? f = some rest) : rest.Synced := by
  unfold CandidateSet.remove? at hrest
  by_cases hcontains : s.contains f = true
  · rw [if_pos hcontains, Option.some.injEq] at hrest
    subst hrest
    exact synced_rebuild (h.counts_remove hcontains)
  · rw [if_neg hcontains] at hrest
    cases hrest

/-! ## The answer -/

/-- Whether a request with these headers has every header that a filter requires. -/
def satisfies (headers : List QualifiedName) (f : AddressFilter) : Bool :=
  f.required.all fun n => n ∈ headers

/-- **Inclusion of masks is inclusion of names**, for the candidates of a synced set: different
names have different positions, and every name a candidate declares has one. -/
theorem Synced.isSubset_mask {s : CandidateSet P} (h : s.Synced) {c : Candidate P}
    (hc : c ∈ s.candidates) (headers : List QualifiedName) :
    c.mask.isSubset (s.allocator.maskFor headers) = satisfies headers c.filter := by
  have hsome : ∀ n ∈ c.filter.required, (s.allocator.bit? n).isSome = true := by
    intro n hn
    rw [h.bits, List.isSome_idxOf?, mem_distinct]
    exact List.mem_flatten.mpr ⟨_, List.mem_map_of_mem hc, hn⟩
  have hinj : ∀ n k i, s.allocator.bit? n = some i → s.allocator.bit? k = some i → n = k := by
    intro n k i hn hk
    rw [h.bits, List.idxOf?_eq_some_iff] at hn hk
    obtain ⟨_, hn, _⟩ := hn
    obtain ⟨_, hk, _⟩ := hk
    rw [← hn, ← hk]
  rw [h.masks c hc, Bool.eq_iff_iff, MaskAllocator.isSubset_maskFor hsome hinj, satisfies,
    List.all_eq_true]
  simp only [decide_eq_true_eq]

/-- **A set answers with the candidates whose headers are all there**, in order. -/
theorem Synced.matching_eq {s : CandidateSet P} (h : s.Synced) (headers : List QualifiedName) :
    s.matching headers = s.candidates.filter fun c => satisfies headers c.filter :=
  List.filter_congr (fun _ hc => h.isSubset_mask hc headers)

/-- **A set answers with the registrations whose headers are all there**, in order. -/
theorem Synced.payloads_matching {s : CandidateSet P} (h : s.Synced)
    (headers : List QualifiedName) :
    (s.matching headers).map Candidate.payload
      = (s.registrations.filter fun e => satisfies headers e.filter).map Registration.payload := by
  unfold registrations
  rw [h.matching_eq, List.filter_map, List.map_map]
  rfl

end CandidateSet

end Switchboard
