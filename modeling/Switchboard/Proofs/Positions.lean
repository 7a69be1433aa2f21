import Mathlib.Order.Bounds.Defs
import Switchboard.Proofs.MaskAllocator

/-!
# Positions of names that come and go

A candidate set numbers its names anew after every change, and what it shows is dense (see
`MaskAllocator.bits_perm_range`). An allocator on its own lives through any calls in any order. Names are
retained and released, a position that was given up is taken by the next new name, and only now and
then everything is renumbered; so in between the positions have gaps, and their order says nothing
about the order of the calls. What must hold all the same is that no two names share a position, or
the mask of one header would pass for that of another.

Each call keeps that for a reason of its own (`Apart`). A new name takes the lowest free position, and one
of the first `size + 1` positions is free because `size` names cannot take them all
(`isLeast_lowestFree`). A name that is released takes its position with it. And numbering anew gives
out each position once – **if** the candidates declare every allocated name. A name that they leave
out keeps the position that it had, and another one may be given the same, so this is asked of each
renumbering in a run (`Covering`).

What follows says how names are allocated, by counting (`AllocatorCall.balance`), and that the positions
of all that stay are left alone; inclusion of masks is then inclusion of names, after any run.
-/

namespace Switchboard

namespace MaskAllocator

variable {a : MaskAllocator}

/-! ## The position of a name -/

/-- The allocated names are those that have a position. -/
theorem isSome_bit? {n : QualifiedName} : (a.bit? n).isSome = true ↔ n ∈ a.names := by
  rw [mem_names, bit?, Option.isSome_map]

/-- A position that a name has is that of a slot. -/
theorem exists_slot_of_bit? {n : QualifiedName} {i : Nat} (h : a.bit? n = some i) :
    ∃ s ∈ a.slots, s.name = n ∧ s.bit = i := by
  obtain ⟨s, hs, hbit⟩ := Option.map_eq_some_iff.mp h
  obtain ⟨hmem, hname⟩ := of_slot?_eq_some hs
  exact ⟨s, hmem, hname, hbit⟩

/-- **The positions of the slots are those that names have.** -/
theorem mem_bits (h : a.names.Nodup) {i : Nat} :
    i ∈ a.slots.map Slot.bit ↔ ∃ n, a.bit? n = some i := by
  rw [List.mem_map]
  constructor
  · rintro ⟨s, hs, rfl⟩
    exact ⟨s.name, by rw [bit?, slot?_of_mem h hs]; rfl⟩
  · rintro ⟨n, hn⟩
    obtain ⟨s, hs, -, hbit⟩ := exists_slot_of_bit? hn
    exact ⟨s, hs, hbit⟩

/-- **The lowest free position** is the least that no slot has. -/
theorem isLeast_lowestFree (a : MaskAllocator) :
    IsLeast {i | i ∉ a.slots.map Slot.bit} a.lowestFree := by
  unfold lowestFree
  cases hfind : (List.range a.slots.length).find? fun i => !(a.slots.map Slot.bit).contains i with
  | some i =>
    obtain ⟨hfree, -, hbelow⟩ := List.find?_range_eq_some.mp hfind
    have hfree : i ∉ a.slots.map Slot.bit := by simpa using hfree
    refine ⟨hfree, fun j hj => ?_⟩
    by_contra hlt
    exact hj (by simpa using hbelow j (Nat.lt_of_not_le hlt))
  | none =>
    have htaken : List.range a.slots.length ⊆ a.slots.map Slot.bit := by
      intro i hi
      simpa using List.find?_range_eq_none.mp hfind i (List.mem_range.mp hi)
    -- as many slots as positions below: these are taken, and there is no slot left for another
    have hperm : (List.range a.slots.length).Perm (a.slots.map Slot.bit) :=
      (List.subperm_of_subset List.nodup_range htaken).perm_of_length_le (by simp)
    refine ⟨fun hmem => ?_, fun j hj => ?_⟩
    · exact Nat.lt_irrefl _ (List.mem_range.mp (hperm.mem_iff.mpr hmem))
    · by_contra hlt
      exact hj (htaken (List.mem_range.mpr (Nat.lt_of_not_le hlt)))

/-- **The order of a renumbering** is that of first occurrence, among the allocated names. -/
theorem order_eq_filter (a : MaskAllocator) (cs : List (List QualifiedName)) :
    a.order cs = (distinct cs.flatten).filter fun n => n ∈ a.names := by
  unfold order
  congr 1
  funext n
  rw [Bool.eq_iff_iff, ← mem_names, decide_eq_true_eq]

/-- **Retaining a name** gives it the lowest free position, unless it has one. -/
theorem bit?_retainName (a : MaskAllocator) (n k : QualifiedName) :
    (a.retainName n).bit? k = (a.bit? k).or (if n = k then some a.lowestFree else none) := by
  unfold retainName bit?
  cases hn : a.slot? n with
  | none =>
    rw [Option.isSome_none, if_neg Bool.false_ne_true, slot?_append, Option.map_or]
    by_cases h : n = k
    · rw [if_pos h, if_pos h]
      rfl
    · rw [if_neg h, if_neg h]
      rfl
  | some s =>
    rw [Option.isSome_some, if_pos rfl,
      slot?_modify a n (fun s => { s with refs := s.refs + 1 }) (fun _ => rfl)]
    by_cases h : k = n
    · rw [h, hn, if_pos rfl, if_pos rfl]
      rfl
    · rw [if_neg h, if_neg (Ne.symm h), Option.or_none]

/-- **Releasing a name** takes its position away when nobody else counts it, and changes no other. -/
theorem bit?_releaseName (a : MaskAllocator) (n k : QualifiedName) :
    (a.releaseName n).bit? k = if k = n ∧ a.refs n ≤ 1 then none else a.bit? k := by
  unfold releaseName bit?
  by_cases hle : a.refs n ≤ 1
  · rw [if_pos hle, slot?_filter]
    by_cases h : k = n
    · rw [if_pos h, if_pos ⟨h, hle⟩]
      rfl
    · rw [if_neg h, if_neg fun hk => h hk.1]
  · rw [if_neg hle, if_neg fun hk => hle hk.2,
      slot?_modify a n (fun s => { s with refs := s.refs - 1 }) (fun _ => rfl)]
    by_cases h : k = n
    · rw [if_pos h, Option.map_map]
      rfl
    · rw [if_neg h]

/-- What has a position keeps it when names are retained. -/
theorem bit?_retain_of_eq_some {n : QualifiedName} {i : Nat} (h : a.bit? n = some i)
    (names : List QualifiedName) : (a.retain names).bit? n = some i := by
  refine retain_preserves (fun b => b.bit? n = some i) (fun b m hb => ?_) h names
  rw [bit?_retainName, hb, Option.some_or]

/-- What has a position when names were released had it before. -/
theorem bit?_of_release {names : List QualifiedName} {n : QualifiedName} {i : Nat} :
    (a.release names).bit? n = some i → a.bit? n = some i := by
  refine release_preserves (fun b => b.bit? n = some i → a.bit? n = some i)
    (fun b m hb hbit => hb ?_) id names
  rw [bit?_releaseName] at hbit
  split at hbit
  · cases hbit
  · exact hbit

/-! ## Names and positions apart -/

/-- **Names and positions are apart**: no name has two slots, and no two slots one position. -/
structure Apart (a : MaskAllocator) : Prop where
  /-- No name has two slots. -/
  names : a.names.Nodup
  /-- No two slots have one position. -/
  bits : (a.slots.map Slot.bit).Nodup

theorem apart_empty : Apart {} :=
  ⟨List.nodup_nil, List.nodup_nil⟩

namespace Apart

/-- **Different names have different positions.** -/
theorem eq_of_bit? (h : a.Apart) {m n : QualifiedName} {i : Nat} (hm : a.bit? m = some i)
    (hn : a.bit? n = some i) : m = n := by
  obtain ⟨s, hs, rfl, hsi⟩ := exists_slot_of_bit? hm
  obtain ⟨t, ht, rfl, hti⟩ := exists_slot_of_bit? hn
  rw [List.inj_on_of_nodup_map h.bits hs ht (hsi.trans hti.symm)]

theorem retainName (h : a.Apart) (n : QualifiedName) : (a.retainName n).Apart := by
  refine ⟨nodup_names_retainName h.names n, ?_⟩
  unfold MaskAllocator.retainName
  split
  · rw [map_modify]
    · exact h.bits
    · exact fun _ => rfl
  · show ((a.slots ++ [(⟨n, a.lowestFree, 1⟩ : Slot)]).map Slot.bit).Nodup
    rw [List.map_append]
    exact List.nodup_append_comm.mp (List.nodup_cons.mpr ⟨a.isLeast_lowestFree.1, h.bits⟩)

theorem releaseName (h : a.Apart) (n : QualifiedName) : (a.releaseName n).Apart := by
  refine ⟨nodup_names_releaseName h.names n, ?_⟩
  unfold MaskAllocator.releaseName
  split
  · exact h.bits.sublist (List.filter_sublist.map _)
  · rw [map_modify]
    · exact h.bits
    · exact fun _ => rfl

/-- **Retaining keeps names and positions apart.** -/
theorem retain (h : a.Apart) (names : List QualifiedName) : (a.retain names).Apart :=
  retain_preserves Apart (fun _ n hb => hb.retainName n) h names

/-- **Releasing keeps names and positions apart.** -/
theorem release (h : a.Apart) (names : List QualifiedName) : (a.release names).Apart :=
  release_preserves Apart (fun _ n hb => hb.releaseName n) h names

/-- **A new name takes the lowest position that no name has**, whatever is retained behind it. -/
theorem bit?_retain_new (h : a.Apart) {n : QualifiedName} (hn : n ∉ a.names)
    (behind : List QualifiedName) :
    (a.retain (n :: behind)).bit? n = some a.lowestFree
      ∧ IsLeast {i | ∀ m, a.bit? m ≠ some i} a.lowestFree := by
  constructor
  · have hnone : a.bit? n = none := by
      rw [← Option.not_isSome_iff_eq_none, isSome_bit?]
      exact hn
    refine bit?_retain_of_eq_some (a := a.retainName n) ?_ behind
    rw [bit?_retainName, hnone, Option.none_or, if_pos rfl]
  · have hfree : {i | ∀ m, a.bit? m ≠ some i} = {i | i ∉ a.slots.map Slot.bit} := by
      ext i
      show (∀ m, a.bit? m ≠ some i) ↔ i ∉ a.slots.map Slot.bit
      rw [mem_bits h.names, not_exists]
    rw [hfree]
    exact a.isLeast_lowestFree

/-- **Numbering anew makes positions dense**, where the candidates declare every allocated name. -/
theorem bits_rebuild_perm (h : a.Apart) {cs : List (List QualifiedName)}
    (hcs : a.names ⊆ cs.flatten) :
    ((a.rebuild cs).slots.map Slot.bit).Perm (List.range a.size) := by
  have horder : (a.order cs).Nodup := (nodup_distinct _).filter _
  have hperm : (a.rebuild cs).names.Perm (a.order cs) := by
    rw [names_rebuild, List.perm_ext_iff_of_nodup h.names horder]
    intro n
    rw [mem_order, ← mem_names]
    exact (and_iff_right_of_imp fun hn => hcs hn).symm
  have hbit := bit?_rebuild_of_declared fun n hn => hcs (mem_names.mpr hn)
  have hsize : (a.rebuild cs).size = a.size := by
    rw [← length_names, names_rebuild, length_names]
  rw [← hsize]
  exact bits_perm_range (by rw [names_rebuild]; exact h.names) horder hperm hbit

/-- **Numbering anew keeps names and positions apart**, where the candidates declare every allocated
name. -/
theorem rebuild (h : a.Apart) {cs : List (List QualifiedName)} (hcs : a.names ⊆ cs.flatten) :
    (a.rebuild cs).Apart := by
  refine ⟨?_, (h.bits_rebuild_perm hcs).nodup_iff.mpr List.nodup_range⟩
  rw [names_rebuild]
  exact h.names

/-- Candidates that leave an allocated name out can bring two names to one position. -/
example : ((({} : MaskAllocator).retain [⟨"", "To"⟩, ⟨"", "From"⟩]).rebuild [[⟨"", "From"⟩]]).slots
    = [⟨⟨"", "To"⟩, 0, 1⟩, ⟨⟨"", "From"⟩, 0, 1⟩] := by
  decide +kernel

end Apart

end MaskAllocator

/-! ## Runs -/

/-- **A call on an allocator.** -/
inductive AllocatorCall where
  /-- One more candidate requires each of the names. -/
  | retain (names : List QualifiedName)
  /-- One candidate fewer requires each of the names. -/
  | release (names : List QualifiedName)
  /-- The names are numbered anew over the candidates. -/
  | rebuild (candidates : List (List QualifiedName))

namespace AllocatorCall

/-- How often a name is counted after a call: once more for each time that it is retained, and once less
for each time that it is released, but never less than zero times. -/
def tally (n : QualifiedName) (count : Nat) : AllocatorCall → Nat
  | retain names => count + names.count n
  | release names => count - names.count n
  | rebuild _ => count

/-- **The running count of a name**, which knows of no slots. -/
def balance (n : QualifiedName) (calls : List AllocatorCall) : Nat :=
  calls.foldl (tally n) 0

end AllocatorCall

namespace MaskAllocator

/-- The allocator after a call. -/
def after (a : MaskAllocator) : AllocatorCall → MaskAllocator
  | .retain names => a.retain names
  | .release names => a.release names
  | .rebuild candidates => a.rebuild candidates

/-- **A run**: calls one after another. -/
def run (a : MaskAllocator) (calls : List AllocatorCall) : MaskAllocator :=
  calls.foldl after a

/-- Whether a call leaves no allocated name out, if it numbers anew. -/
def Covered (a : MaskAllocator) : AllocatorCall → Prop
  | .rebuild candidates => a.names ⊆ candidates.flatten
  | _ => True

/-- **Every renumbering in a run declares every name that is then allocated.** -/
def Covering (a : MaskAllocator) : List AllocatorCall → Prop
  | [] => True
  | call :: calls => a.Covered call ∧ Covering (a.after call) calls

variable {a : MaskAllocator}

/-- **A call counts** as it says. -/
theorem refs_after (a : MaskAllocator) (call : AllocatorCall) (n : QualifiedName) :
    (a.after call).refs n = call.tally n (a.refs n) := by
  cases call with
  | retain names => exact refs_retain a names n
  | release names => exact refs_release a names n
  | rebuild candidates => exact refs_rebuild a candidates n

theorem Counting.after (h : a.Counting) (call : AllocatorCall) : (a.after call).Counting := by
  cases call with
  | retain names => exact h.retain names
  | release names => exact h.release names
  | rebuild candidates => exact h.rebuild candidates

theorem Apart.after (h : a.Apart) {call : AllocatorCall} (hcall : a.Covered call) :
    (a.after call).Apart := by
  cases call with
  | retain names => exact h.retain names
  | release names => exact h.release names
  | rebuild candidates => exact h.rebuild hcall

/-- **A run counts** as its calls say, from the count before it. -/
theorem refs_run (a : MaskAllocator) (calls : List AllocatorCall) (n : QualifiedName) :
    (a.run calls).refs n = calls.foldl (AllocatorCall.tally n) (a.refs n) := by
  unfold run
  induction calls generalizing a with
  | nil => rfl
  | cons call calls ih => rw [List.foldl_cons, List.foldl_cons, ih, refs_after]

/-- After a run every slot is counted by somebody. -/
theorem Counting.run (h : a.Counting) (calls : List AllocatorCall) : (a.run calls).Counting := by
  unfold MaskAllocator.run
  induction calls generalizing a with
  | nil => exact h
  | cons call calls ih => exact ih (h.after call)

/-- **A run keeps names and positions apart.** -/
theorem Apart.run (h : a.Apart) {calls : List AllocatorCall} (hcalls : a.Covering calls) :
    (a.run calls).Apart := by
  unfold MaskAllocator.run
  induction calls generalizing a with
  | nil => exact h
  | cons call calls ih => exact ih (h.after hcalls.1) hcalls.2

/-- **Names and positions are kept apart by any calls**, each renumbering of which declares every allocated
name. A name is allocated while its running count is positive, and that is what it is counted; each
allocated name has a position that no other name has. A new name is given the least position that no
name has; retaining and releasing leave the positions of all names that stay; and numbering anew gives
out the positions from zero on by first occurrence. So inclusion of masks is inclusion of names. -/
theorem run_apart (calls : List AllocatorCall) (h : Covering {} calls) :
    let a := run {} calls
    (∀ n, a.refs n = AllocatorCall.balance n calls
        ∧ (n ∈ a.names ↔ 0 < AllocatorCall.balance n calls))
      ∧ (∀ n ∈ a.names, ∃ i, a.bit? n = some i ∧ ∀ m, a.bit? m = some i → m = n)
      ∧ (∀ before n behind, n ∉ (a.retain before).names →
          ∃ i, (a.retain (before ++ n :: behind)).bit? n = some i
            ∧ IsLeast {i | ∀ m, (a.retain before).bit? m ≠ some i} i)
      ∧ (∀ names, ∀ n ∈ a.names, (a.retain names).bit? n = a.bit? n)
      ∧ (∀ names, ∀ n ∈ (a.release names).names, (a.release names).bit? n = a.bit? n)
      ∧ (∀ candidates : List (List QualifiedName), a.names ⊆ candidates.flatten →
          ((a.rebuild candidates).slots.map Slot.bit).Perm (List.range a.size)
            ∧ ∀ n, (a.rebuild candidates).bit? n
                = ((distinct candidates.flatten).filter fun m => m ∈ a.names).idxOf? n)
      ∧ ∀ names headers : List QualifiedName, names ⊆ a.names →
          ((a.maskFor names).isSubset (a.maskFor headers) = true ↔ names ⊆ headers) := by
  intro a
  have hapart : a.Apart := apart_empty.run h
  have hcounting : a.Counting := counting_empty.run calls
  have hrefs : ∀ n, a.refs n = AllocatorCall.balance n calls := fun n => refs_run {} calls n
  have hinj : ∀ m n i, a.bit? m = some i → a.bit? n = some i → m = n := fun _ _ _ =>
    hapart.eq_of_bit?
  refine ⟨fun n => ⟨hrefs n, ?_⟩, fun n hn => ?_, fun before n behind hn => ?_, fun names n hn => ?_,
    fun names n hn => ?_, fun cs hcs => ⟨hapart.bits_rebuild_perm hcs, fun n => ?_⟩,
    fun names headers hnames => ?_⟩
  · rw [mem_names, hcounting n, hrefs]
  · obtain ⟨i, hi⟩ := Option.isSome_iff_exists.mp (isSome_bit?.mpr hn)
    exact ⟨i, hi, fun m hm => hinj m n i hm hi⟩
  · obtain ⟨hbit, hleast⟩ := (hapart.retain before).bit?_retain_new hn behind
    have happend : a.retain (before ++ n :: behind) = (a.retain before).retain (n :: behind) :=
      List.foldl_append
    rw [happend]
    exact ⟨_, hbit, hleast⟩
  · obtain ⟨i, hi⟩ := Option.isSome_iff_exists.mp (isSome_bit?.mpr hn)
    rw [hi]
    exact bit?_retain_of_eq_some hi names
  · obtain ⟨i, hi⟩ := Option.isSome_iff_exists.mp (isSome_bit?.mpr hn)
    rw [hi]
    exact (bit?_of_release hi).symm
  · rw [bit?_rebuild_of_declared (fun m hm => hcs (mem_names.mpr hm)), order_eq_filter]
  · exact isSubset_maskFor (fun n hn => isSome_bit?.mpr (hnames hn)) hinj headers

/-- `D` is given the position that `A` gave up, and after a renumbering `E` that of `C`; `F` comes behind
all that are in use. -/
theorem run_apart_gap :
    let calls : List AllocatorCall :=
      [.retain [⟨"", "A"⟩, ⟨"", "B"⟩, ⟨"", "B"⟩], .retain [⟨"", "C"⟩], .release [⟨"", "A"⟩, ⟨"", "B"⟩],
        .retain [⟨"", "D"⟩], .rebuild [[⟨"", "C"⟩, ⟨"", "A"⟩], [⟨"", "B"⟩, ⟨"", "C"⟩, ⟨"", "D"⟩]],
        .release [⟨"", "C"⟩], .retain [⟨"", "E"⟩, ⟨"", "F"⟩]]
    let a := run {} calls
    Covering {} calls
      ∧ a.slots = [⟨⟨"", "B"⟩, 1, 1⟩, ⟨⟨"", "D"⟩, 2, 1⟩, ⟨⟨"", "E"⟩, 0, 1⟩, ⟨⟨"", "F"⟩, 3, 1⟩]
      ∧ AllocatorCall.balance ⟨"", "B"⟩ calls = 1
      ∧ (a.maskFor [⟨"", "E"⟩]).isSubset (a.maskFor [⟨"", "X"⟩, ⟨"", "F"⟩, ⟨"", "E"⟩]) = true
      ∧ ¬ (a.maskFor [⟨"", "E"⟩]).isSubset (a.maskFor [⟨"", "A"⟩, ⟨"", "C"⟩]) = true := by
  intro calls a
  have hcovering : Covering {} calls := by
    simp only [calls, Covering, Covered, and_true, true_and]
    decide +kernel
  have hslots : a.slots
      = [⟨⟨"", "B"⟩, 1, 1⟩, ⟨⟨"", "D"⟩, 2, 1⟩, ⟨⟨"", "E"⟩, 0, 1⟩, ⟨⟨"", "F"⟩, 3, 1⟩] := by
    decide +kernel
  have hallocated : [⟨"", "E"⟩] ⊆ a.names := by decide +kernel
  obtain ⟨hcount, -, -, -, -, -, hmask⟩ := run_apart calls hcovering
  refine ⟨hcovering, hslots, ?_, (hmask _ _ hallocated).mpr (by decide +kernel), ?_⟩
  · rw [← (hcount ⟨"", "B"⟩).1]
    decide +kernel
  · exact fun hsub => absurd ((hmask _ _ hallocated).mp hsub) (by decide +kernel)

end MaskAllocator

end Switchboard
