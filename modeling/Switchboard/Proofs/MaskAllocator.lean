import Mathlib.Data.List.Nodup
import Mathlib.Data.List.Perm.Basic
import Switchboard.MaskAllocator
import Switchboard.Proofs.HeaderMask

/-!
# Counting and numbering header names

An allocator is a list of slots, and what later proofs need of it is two functions of a name: how
often it is counted (`refs`) and which position it has (`bit?`). This module says what each
operation does to them.

Counting is plain arithmetic: retaining adds the occurrences of a name (`refs_retain`), and
releasing takes them away (`refs_release`). The slots themselves follow from the counts as soon as
no slot is kept that nobody counts – `Counting`, which every operation preserves.

Numbering anew leaves the counts alone (`refs_rebuild`), and afterwards the position of a name is
its place among the names of the candidates (`bit?_rebuild`): what was allocated in which order
has left no trace. Masks are compared in place of names, and that is the same as soon as different
names have different positions (`isSubset_maskFor`).

No operation gives a name two slots. So where the counts are those of the candidates the slots are
the names of the candidates, each once (`Counts.names_perm`), and numbering anew, which goes through
those names, meets every slot and gives out the positions from zero on without a gap
(`bits_perm_range`).
-/

namespace Switchboard.MaskAllocator

/-! ## Slots by name -/

/-- The slot of a name is one of the slots, and has the name. -/
theorem of_slot?_eq_some {a : MaskAllocator} {n : QualifiedName} {s : Slot}
    (h : a.slot? n = some s) : s ∈ a.slots ∧ s.name = n := by
  unfold slot? at h
  exact ⟨List.mem_of_find?_eq_some h, by simpa using List.find?_some h⟩

/-- **Changing the slot of a name** leaves the slots of the others. -/
theorem slot?_modify (a : MaskAllocator) (n : QualifiedName) (f : Slot → Slot)
    (hf : ∀ s, (f s).name = s.name) (k : QualifiedName) :
    (a.modify n f).slot? k = if k = n then (a.slot? k).map f else a.slot? k := by
  unfold slot? modify
  rw [List.find?_map]
  have hname : ((fun s : Slot => decide (s.name = k)) ∘ fun s => if s.name = n then f s else s)
      = fun s => decide (s.name = k) := by
    funext s
    by_cases h : s.name = n
    · simp [h, hf]
    · simp [h]
  rw [hname]
  cases hs : a.slots.find? (fun s => decide (s.name = k)) with
  | none => simp
  | some s =>
    have hk : s.name = k := by simpa using List.find?_some hs
    by_cases h : k = n
    · simp [hk, h]
    · simp [hk, h]

/-- **Dropping the slot of a name** leaves the slots of the others. -/
theorem slot?_filter (a : MaskAllocator) (n k : QualifiedName) :
    slot? ⟨a.slots.filter fun s => s.name ≠ n⟩ k = if k = n then none else a.slot? k := by
  unfold slot?
  rw [List.find?_filter]
  by_cases h : k = n
  · rw [if_pos h, List.find?_eq_none]
    rintro s -
    simp [h]
  · rw [if_neg h]
    refine congrArg (fun p => a.slots.find? p) ?_
    funext s
    by_cases hs : s.name = k
    · simp [hs, h]
    · simp [hs]

/-- A slot put behind the others is found when none of them has its name. -/
theorem slot?_append (a : MaskAllocator) (s : Slot) (k : QualifiedName) :
    slot? ⟨a.slots ++ [s]⟩ k
      = (a.slot? k).or (if s.name = k then some s else none) := by
  unfold slot?
  rw [List.find?_append]
  by_cases h : s.name = k
  · simp [h]
  · simp [h]

/-! ## What every name preserves -/

/-- **What retaining one name preserves, retaining names preserves.** -/
theorem retain_preserves (Q : MaskAllocator → Prop) (hstep : ∀ a n, Q a → Q (a.retainName n))
    {a : MaskAllocator} (h : Q a) (names : List QualifiedName) : Q (a.retain names) := by
  unfold retain
  induction names generalizing a with
  | nil => exact h
  | cons n names ih => exact ih (hstep a n h)

/-- What releasing one name preserves, releasing names preserves. -/
theorem release_preserves (Q : MaskAllocator → Prop) (hstep : ∀ a n, Q a → Q (a.releaseName n))
    {a : MaskAllocator} (h : Q a) (names : List QualifiedName) : Q (a.release names) := by
  unfold release
  induction names generalizing a with
  | nil => exact h
  | cons n names ih => exact ih (hstep a n h)

/-! ## Counts -/

/-- **Every slot is counted by somebody**, and so the slots follow from the counts. -/
def Counting (a : MaskAllocator) : Prop :=
  ∀ n, (a.slot? n).isSome = true ↔ 0 < a.refs n

theorem counting_empty : Counting {} := by
  intro n
  simp [slot?, refs]

/-- **Counting a name once more** is what its name says. -/
theorem refs_retainName (a : MaskAllocator) (n k : QualifiedName) :
    (a.retainName n).refs k = a.refs k + if k = n then 1 else 0 := by
  unfold retainName
  cases hn : a.slot? n with
  | none =>
    rw [Option.isSome_none, if_neg Bool.false_ne_true, refs, slot?_append, refs]
    by_cases h : k = n
    · subst h
      simp [hn]
    · simp [h, Ne.symm h]
  | some s =>
    rw [Option.isSome_some, if_pos rfl, refs,
      slot?_modify a n (fun s => { s with refs := s.refs + 1 }) (fun _ => rfl), refs]
    by_cases h : k = n
    · subst h
      simp [hn]
    · simp [h]

theorem Counting.retainName {a : MaskAllocator} (h : a.Counting) (n : QualifiedName) :
    (a.retainName n).Counting := by
  intro k
  rw [refs_retainName]
  have hk := h k
  unfold MaskAllocator.retainName
  cases hn : a.slot? n with
  | none =>
    rw [Option.isSome_none, if_neg Bool.false_ne_true, slot?_append]
    by_cases hkn : k = n
    · subst hkn
      simp [hn]
    · simp [hkn, Ne.symm hkn, hk]
  | some s =>
    rw [Option.isSome_some, if_pos rfl,
      slot?_modify a n (fun s => { s with refs := s.refs + 1 }) (fun _ => rfl)]
    by_cases hkn : k = n
    · subst hkn
      simp [hn]
    · simp [hkn, hk]

/-- **Counting a name once less** is what its name says. -/
theorem refs_releaseName (a : MaskAllocator) (n k : QualifiedName) :
    (a.releaseName n).refs k = a.refs k - if k = n then 1 else 0 := by
  unfold releaseName
  by_cases hle : a.refs n ≤ 1
  · rw [if_pos hle, refs, slot?_filter]
    by_cases h : k = n
    · subst h
      simp
      omega
    · simp [h, refs]
  · rw [if_neg hle, refs,
      slot?_modify a n (fun s => { s with refs := s.refs - 1 }) (fun _ => rfl), refs]
    by_cases h : k = n
    · subst h
      cases hk : a.slot? k <;> simp
    · simp [h]

theorem Counting.releaseName {a : MaskAllocator} (h : a.Counting) (n : QualifiedName) :
    (a.releaseName n).Counting := by
  intro k
  rw [refs_releaseName]
  have hk := h k
  unfold MaskAllocator.releaseName
  by_cases hle : a.refs n ≤ 1
  · rw [if_pos hle, slot?_filter]
    by_cases hkn : k = n
    · subst hkn
      simp
      omega
    · simp [hkn, hk]
  · rw [if_neg hle,
      slot?_modify a n (fun s => { s with refs := s.refs - 1 }) (fun _ => rfl)]
    by_cases hkn : k = n
    · subst hkn
      simp [hk]
      omega
    · simp [hkn, hk]

/-- **Retaining names adds their occurrences.** -/
theorem refs_retain (a : MaskAllocator) (names : List QualifiedName) (k : QualifiedName) :
    (a.retain names).refs k = a.refs k + names.count k := by
  unfold retain
  induction names generalizing a with
  | nil => simp
  | cons n names ih =>
    rw [List.foldl_cons, ih, refs_retainName, List.count_cons]
    by_cases h : k = n
    · simp [h]
      omega
    · simp [h, Ne.symm h]

theorem Counting.retain {a : MaskAllocator} (h : a.Counting) (names : List QualifiedName) :
    (a.retain names).Counting :=
  retain_preserves Counting (fun _ n hb => hb.retainName n) h names

/-- **Releasing names takes their occurrences away.** -/
theorem refs_release (a : MaskAllocator) (names : List QualifiedName) (k : QualifiedName) :
    (a.release names).refs k = a.refs k - names.count k := by
  unfold release
  induction names generalizing a with
  | nil => simp
  | cons n names ih =>
    rw [List.foldl_cons, ih, refs_releaseName, List.count_cons]
    by_cases h : k = n
    · simp [h]
      omega
    · simp [h, Ne.symm h]

theorem Counting.release {a : MaskAllocator} (h : a.Counting) (names : List QualifiedName) :
    (a.release names).Counting :=
  release_preserves Counting (fun _ n hb => hb.releaseName n) h names

/-! ## Positions -/

/-- **Numbering anew renumbers a slot** and keeps the rest of it. -/
theorem slot?_rebuild (a : MaskAllocator) (cs : List (List QualifiedName)) (k : QualifiedName) :
    (a.rebuild cs).slot? k = (a.slot? k).map fun s =>
      match (a.order cs).idxOf? s.name with
      | some i => { s with bit := i }
      | none => s := by
  unfold slot? rebuild
  rw [List.find?_map]
  refine congrArg (fun p => (a.slots.find? p).map _) ?_
  funext s
  rw [Function.comp_apply]
  cases (a.order cs).idxOf? s.name <;> rfl

/-- Numbering anew changes no count. -/
@[simp] theorem refs_rebuild (a : MaskAllocator) (cs : List (List QualifiedName))
    (k : QualifiedName) : (a.rebuild cs).refs k = a.refs k := by
  unfold refs
  rw [slot?_rebuild, Option.map_map]
  refine congrArg (fun f => ((a.slot? k).map f).getD 0) ?_
  funext s
  rw [Function.comp_apply]
  cases (a.order cs).idxOf? s.name <;> rfl

theorem Counting.rebuild {a : MaskAllocator} (h : a.Counting) (cs : List (List QualifiedName)) :
    (a.rebuild cs).Counting := by
  intro k
  rw [refs_rebuild, slot?_rebuild, Option.isSome_map]
  exact h k

/-- **The counts are those of the candidates**: each name is counted once for every candidate that
declares it. -/
def Counts (a : MaskAllocator) (cs : List (List QualifiedName)) : Prop :=
  a.Counting ∧ ∀ n, a.refs n = cs.flatten.count n

/-- Where the counts are those of the candidates, a name has a slot when a candidate declares it. -/
theorem Counts.isSome_slot? {a : MaskAllocator} {cs : List (List QualifiedName)} (h : a.Counts cs)
    (n : QualifiedName) : (a.slot? n).isSome = true ↔ n ∈ cs.flatten := by
  rw [h.1 n, h.2 n, List.count_pos_iff]

/-- Where the counts are those of the candidates, numbering anew meets all their names. -/
theorem Counts.order_eq {a : MaskAllocator} {cs : List (List QualifiedName)} (h : a.Counts cs) :
    a.order cs = distinct cs.flatten := by
  unfold order
  refine List.filter_eq_self.mpr (fun m hm => ?_)
  exact (h.isSome_slot? m).mpr (mem_distinct.mp hm)

/-- Numbering anew meets the allocated names that the candidates declare. -/
theorem mem_order {a : MaskAllocator} {cs : List (List QualifiedName)} {n : QualifiedName} :
    n ∈ a.order cs ↔ n ∈ cs.flatten ∧ (a.slot? n).isSome = true := by
  unfold order
  rw [List.mem_filter, mem_distinct]

/-- **The position of a name is its place in the order** in which numbering anew meets the names, as
soon as the candidates declare every allocated name. -/
theorem bit?_rebuild_of_declared {a : MaskAllocator} {cs : List (List QualifiedName)}
    (h : ∀ n, (a.slot? n).isSome = true → n ∈ cs.flatten) (n : QualifiedName) :
    (a.rebuild cs).bit? n = (a.order cs).idxOf? n := by
  have hmem : n ∈ a.order cs ↔ (a.slot? n).isSome = true :=
    mem_order.trans (and_iff_right_of_imp (h n))
  unfold bit?
  rw [slot?_rebuild]
  cases hs : a.slot? n with
  | none =>
    have hnone : (a.order cs).idxOf? n = none := by
      rw [List.idxOf?_eq_none_iff, hmem, hs]
      exact Bool.false_ne_true
    rw [hnone]
    rfl
  | some s =>
    have hsome : ((a.order cs).idxOf? n).isSome = true := by
      rw [List.isSome_idxOf?, hmem, hs]
      rfl
    obtain ⟨i, hi⟩ := Option.isSome_iff_exists.mp hsome
    rw [Option.map_some, Option.map_some, (of_slot?_eq_some hs).2, hi]

/-- **The position of a name is its place among the names of the candidates**, each taken at its
first occurrence, where the counts are theirs. -/
theorem bit?_rebuild {a : MaskAllocator} {cs : List (List QualifiedName)} (h : a.Counts cs)
    (n : QualifiedName) : (a.rebuild cs).bit? n = (distinct cs.flatten).idxOf? n := by
  rw [bit?_rebuild_of_declared (fun m => (h.isSome_slot? m).mp), h.order_eq]

/-! ## Masks -/

/-- **Inclusion of masks is inclusion of names**, where every name of the first list has a position and no
two names have the same. -/
theorem isSubset_maskFor {a : MaskAllocator} {names : List QualifiedName}
    (hsome : ∀ n ∈ names, (a.bit? n).isSome = true)
    (hinj : ∀ n k i, a.bit? n = some i → a.bit? k = some i → n = k) (headers : List QualifiedName) :
    (a.maskFor names).isSubset (a.maskFor headers) = true ↔ ∀ n ∈ names, n ∈ headers := by
  rw [maskFor, maskFor, HeaderMask.isSubset_ofBits]
  constructor
  · intro hsub n hn
    obtain ⟨i, hi⟩ := Option.isSome_iff_exists.mp (hsome n hn)
    obtain ⟨k, hk, hki⟩ := List.mem_filterMap.mp (hsub (List.mem_filterMap.mpr ⟨n, hn, hi⟩))
    rw [hinj n k i hi hki]
    exact hk
  · intro hall i hi
    obtain ⟨n, hn, hni⟩ := List.mem_filterMap.mp hi
    exact List.mem_filterMap.mpr ⟨n, hall n hn, hni⟩

/-! ## Names -/

/-- **The allocated names**, in order of allocation. -/
def names (a : MaskAllocator) : List QualifiedName :=
  a.slots.map Slot.name

@[simp] theorem length_names (a : MaskAllocator) : a.names.length = a.size :=
  List.length_map _

/-- The allocated names are those that have a slot. -/
theorem mem_names {a : MaskAllocator} {n : QualifiedName} :
    n ∈ a.names ↔ (a.slot? n).isSome = true := by
  unfold names slot?
  rw [List.find?_isSome, List.mem_map]
  simp only [decide_eq_true_eq]

/-- Changing slots leaves what is read off them and is not changed. -/
theorem map_modify {α : Type} {g : Slot → α} (a : MaskAllocator) (n : QualifiedName)
    (f : Slot → Slot) (hf : ∀ s, g (f s) = g s) : (a.modify n f).slots.map g = a.slots.map g := by
  unfold modify
  rw [List.map_map]
  refine List.map_congr_left (fun s _ => ?_)
  by_cases h : s.name = n
  · simp [h, hf]
  · simp [h]

/-- Changing slots changes no name. -/
theorem names_modify (a : MaskAllocator) (n : QualifiedName) (f : Slot → Slot)
    (hf : ∀ s, (f s).name = s.name) : (a.modify n f).names = a.names :=
  a.map_modify n f hf

@[simp] theorem names_rebuild (a : MaskAllocator) (cs : List (List QualifiedName)) :
    (a.rebuild cs).names = a.names := by
  unfold names rebuild
  rw [List.map_map]
  refine List.map_congr_left (fun s _ => ?_)
  rw [Function.comp_apply]
  cases (a.order cs).idxOf? s.name <;> rfl

section Nodup

variable {a : MaskAllocator}

theorem nodup_names_retainName (h : a.names.Nodup) (n : QualifiedName) :
    (a.retainName n).names.Nodup := by
  unfold retainName
  cases hn : a.slot? n with
  | some s =>
    rw [Option.isSome_some, if_pos rfl, names_modify]
    · exact h
    · exact fun _ => rfl
  | none =>
    have hnew : n ∉ a.names := by
      rw [mem_names, hn]
      exact Bool.false_ne_true
    have happend : names ⟨a.slots ++ [⟨n, a.lowestFree, 1⟩]⟩ = a.names ++ [n] := List.map_append
    rw [Option.isSome_none, if_neg Bool.false_ne_true, happend]
    exact List.nodup_append_comm.mp (List.nodup_cons.mpr ⟨hnew, h⟩)

theorem nodup_names_releaseName (h : a.names.Nodup) (n : QualifiedName) :
    (a.releaseName n).names.Nodup := by
  unfold releaseName
  split
  · exact h.sublist (List.filter_sublist.map _)
  · rw [names_modify]
    · exact h
    · exact fun _ => rfl

/-- **Retaining gives no name two slots.** -/
theorem nodup_names_retain (h : a.names.Nodup) (ns : List QualifiedName) :
    (a.retain ns).names.Nodup :=
  retain_preserves (fun b => b.names.Nodup) (fun _ n hb => nodup_names_retainName hb n) h ns

/-- Releasing gives no name two slots. -/
theorem nodup_names_release (h : a.names.Nodup) (ns : List QualifiedName) :
    (a.release ns).names.Nodup :=
  release_preserves (fun b => b.names.Nodup) (fun _ n hb => nodup_names_releaseName hb n) h ns

/-- A slot is found by its name. -/
theorem slot?_of_mem (h : a.names.Nodup) {s : Slot} (hs : s ∈ a.slots) :
    a.slot? s.name = some s := by
  unfold slot?
  cases hfound : a.slots.find? fun s' => s'.name = s.name with
  | none => exact absurd (decide_eq_true rfl) (List.find?_eq_none.mp hfound s hs)
  | some s' =>
    have hname := List.find?_some hfound
    rw [List.inj_on_of_nodup_map h (List.mem_of_find?_eq_some hfound) hs (of_decide_eq_true hname)]

/-- **The slots are the names of the candidates**, each once, where the counts are theirs. -/
theorem Counts.names_perm {cs : List (List QualifiedName)} (h : a.Counts cs)
    (hnodup : a.names.Nodup) : a.names.Perm (distinct cs.flatten) := by
  refine (List.perm_ext_iff_of_nodup hnodup (nodup_distinct _)).mpr (fun n => ?_)
  rw [mem_names, h.isSome_slot?, mem_distinct]

/-- **Numbering anew meets every slot**, where the counts are those of the candidates. -/
theorem Counts.length_order {cs : List (List QualifiedName)} (h : a.Counts cs)
    (hnodup : a.names.Nodup) : (a.order cs).length = a.size := by
  rw [h.order_eq, ← (h.names_perm hnodup).length_eq, length_names]

/-- **Positions are dense**: where every name has its place in a list as its position, and the names
are those of the list, the positions are the numbers from zero on. -/
theorem bits_perm_range {ns : List QualifiedName} (hnodup : a.names.Nodup) (hns : ns.Nodup)
    (hperm : a.names.Perm ns) (hbit : ∀ n, a.bit? n = ns.idxOf? n) :
    (a.slots.map Slot.bit).Perm (List.range a.size) := by
  have hslots : a.slots.map Slot.bit = a.names.map ns.idxOf := by
    unfold names
    rw [List.map_map]
    refine List.map_congr_left (fun s hs => ?_)
    have hs' : some s.bit = ns.idxOf? s.name := by
      rw [← hbit, bit?, slot?_of_mem hnodup hs]
      rfl
    obtain ⟨hlt, hname, -⟩ := List.idxOf?_eq_some_iff.mp hs'.symm
    rw [Function.comp_apply, ← hname]
    exact (hns.idxOf_getElem _ hlt).symm
  have hrange : ns.map ns.idxOf = List.range ns.length := by
    refine List.ext_getElem (by simp) (fun i h₁ h₂ => ?_)
    rw [List.getElem_map, List.getElem_range]
    exact hns.idxOf_getElem i (by simpa using h₁)
  rw [hslots, ← length_names, hperm.length_eq, ← hrange]
  exact hperm.map _

end Nodup

end Switchboard.MaskAllocator
