import Switchboard.Proofs.Calls
import Switchboard.Proofs.CandidateSet

/-!
# What a candidate set keeps

A candidate set is the list of its registrations, and all that it holds besides follows from that
list: which header names have a position and which position that is, how often each name is counted,
and the mask of every candidate. This module says what each of these is and proves it after any
calls. The order in which candidates came and went does not show; only the list that is left does.

The counts change name by name and the positions are given out anew at the end of each call, so the
two could come apart in between. What numbering anew relies on is that it meets every allocated name
once. `CandidateSet.unnumbered?` is the set that a call hands over to be numbered, and what is relied
on holds of every set that is handed over (`Arranged.unnumbered?`), because its counts are those of
its candidates.

The same filter may be registered more than once. Its names are then counted once for each
registration, and a removal takes the first of them.
-/

namespace Switchboard

variable {P : Type}

/-- **A call on a candidate set.** -/
inductive SetCall (P : Type) where
  /-- Add a candidate behind the others. -/
  | add (filter : AddressFilter) (payload : P)
  /-- Remove the first candidate with an equal filter. -/
  | remove (filter : AddressFilter)

/-! ## The list of registrations -/

namespace Roster

/-- **What a call replies and leaves**, as the list of registrations has it. -/
def answer (es : List (Registration P)) : SetCall P → Reply P × List (Registration P)
  | .add f payload => (.done, es ++ [⟨f, payload⟩])
  | .remove f => (.removed (es.any fun e => e.filter = f), es.eraseP fun e => e.filter = f)

/-- **The header names that registrations require**, each at its first occurrence: registrations in
order, and the headers of each in declared order. -/
def names (es : List (Registration P)) : List QualifiedName :=
  distinct (es.flatMap fun e => e.filter.required)

/-- **How many registrations require a name.** -/
def demand (es : List (Registration P)) (n : QualifiedName) : Nat :=
  es.countP fun e => n ∈ e.filter.required

/-- A name occurs as often as registrations require it: no filter declares it twice. -/
theorem count_required (es : List (Registration P)) (n : QualifiedName) :
    (es.flatMap fun e => e.filter.required).count n = demand es n := by
  unfold demand
  induction es with
  | nil => rfl
  | cons e es ih =>
    rw [List.flatMap_cons, List.count_append, ih, List.countP_cons, Nat.add_comm,
      e.filter.nodup_required.count]
    simp

end Roster

namespace CandidateSet

/-! ## Calls -/

/-- **What a call replies and leaves.** -/
def answer (s : CandidateSet P) : SetCall P → Reply P × CandidateSet P
  | .add f payload => (.done, s.add f payload)
  | .remove f => Reply.ofRemove s (.ok (s.remove? f))

/-- **The set that a call numbers anew**: candidates and counts are those that the call leaves,
positions and masks those that it found. A call that finds nothing to remove numbers none. -/
def unnumbered? (s : CandidateSet P) : SetCall P → Option (CandidateSet P)
  | .add f payload =>
    some {
      candidates := s.candidates ++ [{ filter := f, payload, mask := {} }]
      allocator := s.allocator.retain f.required }
  | .remove f =>
    if s.contains f then
      some {
        candidates := s.candidates.eraseP fun c => c.filter = f
        allocator := s.allocator.release f.required }
    else none

/-- What a removal leaves is what it numbered anew. -/
theorem remove?_eq (s : CandidateSet P) (f : AddressFilter) :
    s.remove? f = (s.unnumbered? (.remove f)).map rebuild := by
  unfold remove? unnumbered?
  dsimp only
  split
  · rfl
  · rfl

/-- **A call leaves what it numbered anew**, and the set as it was if it numbered nothing. -/
theorem answer_eq (s : CandidateSet P) (c : SetCall P) :
    (s.answer c).2 = ((s.unnumbered? c).map rebuild).getD s := by
  cases c with
  | add f payload => rfl
  | remove f =>
    rw [answer, remove?_eq]
    cases s.unnumbered? (.remove f) with
    | none => rfl
    | some u => rfl

/-- **A call goes along**: the set replies what the list of its registrations replies, and has the
registrations that the list becomes. -/
theorem registrations_answer (s : CandidateSet P) (c : SetCall P) :
    (s.answer c).1 = (Roster.answer s.registrations c).1
      ∧ (s.answer c).2.registrations = (Roster.answer s.registrations c).2 := by
  cases c with
  | add f payload => exact ⟨rfl, registrations_add s f payload⟩
  | remove f =>
    have hrest := map_registrations_remove? s f
    rw [answer, Roster.answer, ← contains_eq]
    cases hcontains : s.contains f with
    | false =>
      rw [hcontains, if_neg Bool.false_ne_true, Option.map_eq_none_iff] at hrest
      rw [contains_eq] at hcontains
      rw [hrest]
      exact ⟨rfl, (List.eraseP_of_forall_not (List.any_eq_false.mp hcontains)).symm⟩
    | true =>
      rw [hcontains, if_pos rfl] at hrest
      obtain ⟨rest, hrest, hregistrations⟩ := Option.map_eq_some_iff.mp hrest
      rw [hrest]
      exact ⟨rfl, hregistrations⟩

/-- **A removal finds nothing and changes nothing** exactly when no registration has the filter. -/
theorem answer_remove_eq_iff (s : CandidateSet P) (f : AddressFilter) :
    s.answer (.remove f) = (.removed false, s) ↔ ∀ e ∈ s.registrations, e.filter ≠ f := by
  have hreply := (registrations_answer s (.remove f)).1
  have hany : (s.registrations.any fun e => e.filter = f) = false
      ↔ ∀ e ∈ s.registrations, e.filter ≠ f := by
    rw [List.any_eq_false]
    simp only [decide_eq_true_eq, ne_eq]
  rw [← hany]
  constructor
  · intro h
    rw [h] at hreply
    exact (Reply.removed.inj hreply).symm
  · intro h
    rw [answer, remove?, contains_eq, h]
    rfl

/-! ## The layout -/

/-- **An arranged set**: masks and positions follow the candidates, and no name has two slots. -/
structure Arranged (s : CandidateSet P) : Prop where
  /-- Masks and positions follow the candidates. -/
  synced : s.Synced
  /-- No name has two slots. -/
  nodup : s.allocator.names.Nodup

theorem arranged_empty : (empty : CandidateSet P).Arranged :=
  ⟨synced_empty, List.nodup_nil⟩

/-- **What numbering anew relies on**: the counts are those of the candidates, and no name has two
slots. -/
structure Numberable (s : CandidateSet P) : Prop where
  /-- A name is counted once for every candidate that declares it. -/
  counts : s.allocator.Counts s.requirements
  /-- No name has two slots. -/
  nodup : s.allocator.names.Nodup

/-- A set that is numbered anew is arranged. -/
theorem Numberable.rebuild {s : CandidateSet P} (h : s.Numberable) : s.rebuild.Arranged := by
  refine ⟨synced_rebuild h.counts, ?_⟩
  show (s.allocator.rebuild s.requirements).names.Nodup
  rw [MaskAllocator.names_rebuild]
  exact h.nodup

/-- Numbering anew meets every allocated name. -/
theorem Numberable.length_order {s : CandidateSet P} (h : s.Numberable) :
    (s.allocator.order s.requirements).length = s.allocator.size :=
  h.counts.length_order h.nodup

section Arranged

variable {s : CandidateSet P}

/-- **What a call hands over can be numbered anew.** -/
theorem Arranged.unnumbered? (h : s.Arranged) {c : SetCall P} {u : CandidateSet P}
    (hu : s.unnumbered? c = some u) : u.Numberable := by
  cases c with
  | add f payload =>
    cases hu
    exact ⟨h.synced.counts_add f payload, MaskAllocator.nodup_names_retain h.nodup _⟩
  | remove f =>
    rw [CandidateSet.unnumbered?] at hu
    split at hu
    next hcontains =>
      cases hu
      exact ⟨h.synced.counts_remove hcontains, MaskAllocator.nodup_names_release h.nodup _⟩
    next => cases hu

/-- **Every call leaves an arranged set.** -/
theorem Arranged.answer (h : s.Arranged) (c : SetCall P) : (s.answer c).2.Arranged := by
  rw [answer_eq]
  cases hu : s.unnumbered? c with
  | none => exact h
  | some u => exact (h.unnumbered? hu).rebuild

/-- The names of the candidates are those that the registrations require. -/
theorem distinct_requirements (s : CandidateSet P) :
    distinct s.requirements.flatten = Roster.names s.registrations := by
  rw [requirements_eq, Roster.names, List.flatMap_def]

/-- The position of a name is its place among the names required. -/
theorem Arranged.bit?_eq (h : s.Arranged) (n : QualifiedName) :
    s.allocator.bit? n = (Roster.names s.registrations).idxOf? n := by
  rw [h.synced.bits, distinct_requirements]

/-- The allocated names are those required. -/
theorem Arranged.names_perm (h : s.Arranged) :
    s.allocator.names.Perm (Roster.names s.registrations) := by
  rw [← distinct_requirements]
  exact h.synced.counts.names_perm h.nodup

/-- A name is counted as often as registrations require it. -/
theorem Arranged.refs_eq (h : s.Arranged) (n : QualifiedName) :
    s.allocator.refs n = Roster.demand s.registrations n := by
  rw [h.synced.counts.2, requirements_eq, ← List.flatMap_def, Roster.count_required]

/-- The positions are the numbers from zero on. -/
theorem Arranged.bits_perm (h : s.Arranged) :
    (s.allocator.slots.map Slot.bit).Perm (List.range s.allocator.size) :=
  MaskAllocator.bits_perm_range h.nodup (nodup_distinct _) h.names_perm h.bit?_eq

/-- A mask holds the positions of the headers that its candidate requires. -/
theorem Arranged.contains_mask (h : s.Arranged) {c : Candidate P} (hc : c ∈ s.candidates)
    (i : Nat) : c.mask.contains i = true
      ↔ ∃ n ∈ c.filter.required, (Roster.names s.registrations).idxOf? n = some i := by
  rw [h.synced.masks c hc, MaskAllocator.maskFor, HeaderMask.contains_ofBits, List.mem_filterMap]
  simp only [h.bit?_eq]

end Arranged

/-! ## Every run -/

/-- **All that a candidate set holds follows from its registrations.** Whatever calls are made on an
empty set, it replies as the list of registrations does, call by call. After them its candidates are
that list; the allocated names are those that some registration requires, each once; a name is
counted as often as registrations require it; its position is its place among the names, taken at
their first occurrence, so that the positions are the numbers from zero on; and every mask holds the
positions of the headers that its candidate requires. The next call, whichever it is, numbers a set
anew in which it meets every allocated name. A request's headers select the candidates whose required
headers are all among them, in order; and a removal finds nothing and changes nothing exactly when no
registration has the filter. -/
theorem run_layout (calls : List (SetCall P)) :
    let served := runAll answer (empty : CandidateSet P) calls
    let kept := runAll Roster.answer ([] : List (Registration P)) calls
    served.1 = kept.1
      ∧ served.2.registrations = kept.2
      ∧ served.2.allocator.names.Perm (Roster.names kept.2)
      ∧ (∀ n, served.2.allocator.refs n = Roster.demand kept.2 n)
      ∧ (∀ n, served.2.allocator.bit? n = (Roster.names kept.2).idxOf? n)
      ∧ (served.2.allocator.slots.map Slot.bit).Perm (List.range served.2.allocator.size)
      ∧ (∀ c ∈ served.2.candidates, ∀ i, c.mask.contains i = true
          ↔ ∃ n ∈ c.filter.required, (Roster.names kept.2).idxOf? n = some i)
      ∧ (∀ c u, served.2.unnumbered? c = some u
          → (served.2.answer c).2 = u.rebuild
            ∧ (u.allocator.order u.requirements).length = u.allocator.size)
      ∧ (∀ headers, served.2.matching headers
          = served.2.candidates.filter fun c => c.filter.required.all fun n => n ∈ headers)
      ∧ (∀ f, served.2.answer (.remove f) = (.removed false, served.2)
          ↔ ∀ e ∈ kept.2, e.filter ≠ f) := by
  intro served kept
  obtain ⟨hreplies, harranged, hkept⟩ : served.1 = kept.1
      ∧ served.2.Arranged ∧ served.2.registrations = kept.2 := by
    refine runAll_agrees (R := fun (s : CandidateSet P) es => s.Arranged ∧ s.registrations = es) ?_
      ⟨arranged_empty, registrations_empty⟩ calls
    rintro s es c ⟨hs, rfl⟩
    obtain ⟨hreply, hregistrations⟩ := registrations_answer s c
    exact ⟨hreply, hs.answer c, hregistrations⟩
  rw [← hkept]
  refine ⟨hreplies, rfl, harranged.names_perm, harranged.refs_eq, harranged.bit?_eq,
    harranged.bits_perm, fun c hc => harranged.contains_mask hc, fun c u hu => ⟨?_, ?_⟩,
    harranged.synced.matching_eq, answer_remove_eq_iff served.2⟩
  · rw [answer_eq, hu]
    rfl
  · exact (harranged.unnumbered? hu).length_order

end CandidateSet

end Switchboard
