import Switchboard.PrefixIndex
import Switchboard.Proofs.PathTree

/-!
# The prefix index is a map of places

Where a bucket is filed takes three things: the host mode, the part of the authority that the mode
looks at, and the segments in upper case. Together they are a **place**, two addresses are the
same to the index when their places are, and the index is the map `at?` from places to buckets.

Each operation changes that map at the one place of its address (`at?_file`, `at?_clear`), and
answers with what the map held there (`insert_fst`, `unregister_fst`). A look-up goes through the
places above a destination, which differ in their segments alone, and takes the longest
(`isLongest_of_lookup?`). The number of buckets is kept by hand, by what those answers say; it is
right as long as it was (`Sized`).
-/

namespace Switchboard

/-- **Where a bucket is filed.** -/
structure Place where
  /-- The host mode. -/
  mode : HostMode
  /-- What the mode looks at of the authority. -/
  authority : Authority
  /-- The segments, in upper case. -/
  key : List String
deriving DecidableEq

/-- **The place of an address** under a host mode. -/
def Address.place (a : Address) (mode : HostMode) : Place :=
  ⟨mode, a.authority mode, a.key⟩

namespace PrefixIndex

variable {β : Type}

/-- **What is filed at a place.** -/
def at? (ix : PrefixIndex β) (p : Place) : Option β :=
  (Assoc.get? p.authority (ix.forest p.mode)).bind fun t => t.get? p.key

theorem get?_eq (ix : PrefixIndex β) (a : Address) (mode : HostMode) :
    ix.get? a mode = ix.at? (a.place mode) := rfl

@[simp] theorem at?_empty (p : Place) : (empty : PrefixIndex β).at? p = none := by
  cases p with
  | mk mode authority key => cases mode <;> rfl

/-! ## One place changes -/

/-- **Replacing the trees of one mode changes one place** if the new trees differ from the old ones
in what they hold for one authority under one list of segments. -/
theorem at?_withForest {ix : PrefixIndex β} {a : Address} {mode : HostMode} {trees : Forest β}
    {b : Option β}
    (h : ∀ c k, (Assoc.get? c trees).bind (fun t => t.get? k)
      = if c = a.authority mode ∧ k = a.key then b else ix.at? ⟨mode, c, k⟩) (p : Place) :
    (ix.withForest mode trees).at? p = if p = a.place mode then b else ix.at? p := by
  obtain ⟨mode', c, k⟩ := p
  by_cases hmode : mode' = mode
  · subst hmode
    have htrees : (ix.withForest mode' trees).at? ⟨mode', c, k⟩
        = (Assoc.get? c trees).bind fun t => t.get? k := by
      cases mode' <;> rfl
    rw [htrees, h c k]
    simp only [Address.place, Place.mk.injEq, true_and]
  · have hother : (ix.withForest mode trees).at? ⟨mode', c, k⟩ = ix.at? ⟨mode', c, k⟩ := by
      cases mode <;> cases mode' <;> first | rfl | exact absurd rfl hmode
    rw [hother, if_neg (fun h => hmode (congrArg Place.mode h))]

/-- **Filing changes one place.** -/
theorem at?_file (ix : PrefixIndex β) (a : Address) (mode : HostMode) (b : β) (p : Place) :
    (ix.file a mode b).at? p = if p = a.place mode then some b else ix.at? p := by
  refine at?_withForest (fun c k => ?_) p
  by_cases hc : c = a.authority mode
  · have hold : ((ix.tree? a mode).getD .empty).get? k = ix.at? ⟨mode, c, k⟩ := by
      rw [PathTree.get?_getD_empty, hc]
      rfl
    rw [hc, Assoc.get?_put_self, Option.bind_some, PathTree.get?_insert, hold, hc]
    simp only [true_and]
  · rw [Assoc.get?_put_of_ne hc, if_neg (fun h => hc h.1)]
    rfl

/-- **Clearing empties one place.** -/
theorem at?_clear (ix : PrefixIndex β) (a : Address) (mode : HostMode) (p : Place) :
    (ix.clear a mode).at? p = if p = a.place mode then none else ix.at? p := by
  unfold clear unregister
  cases ht : ix.tree? a mode with
  | none =>
    by_cases hp : p = a.place mode
    · rw [if_pos hp, hp]
      show (ix.tree? a mode).bind _ = none
      rw [ht]
      rfl
    · rw [if_neg hp]
  | some t =>
    refine at?_withForest (fun c k => ?_) p
    rw [PathTree.get?_pruned, PathTree.get?_remove]
    by_cases hc : c = a.authority mode
    · have hold : ix.at? ⟨mode, c, k⟩ = t.get? k := by
        show (Assoc.get? c (ix.forest mode)).bind _ = _
        rw [hc, show Assoc.get? (a.authority mode) (ix.forest mode) = some t from ht]
        rfl
      rw [if_pos hc, hold]
      simp only [hc, true_and]
    · rw [if_neg hc, if_neg (fun h => hc h.1)]
      rfl

/-! ## What was filed before -/

/-- **Filing answers with the bucket that was filed there.** -/
theorem insert_fst (ix : PrefixIndex β) (a : Address) (mode : HostMode) (b : β) :
    (ix.insert a mode b).1 = ix.get? a mode := by
  show (((ix.tree? a mode).getD .empty).insert b a.key).1 = _
  rw [PathTree.insert_fst, PathTree.get?_getD_empty, get?]

/-- **Removing answers with the bucket that was filed there.** -/
theorem unregister_fst (ix : PrefixIndex β) (a : Address) (mode : HostMode) :
    (ix.unregister a mode).1 = ix.get? a mode := by
  unfold unregister get?
  cases ix.tree? a mode with
  | none => rfl
  | some t => exact t.remove_fst a.key

/-- Filing raises the number of buckets where nothing was filed. -/
theorem size_file (ix : PrefixIndex β) (a : Address) (mode : HostMode) (b : β) :
    (ix.file a mode b).size = if (ix.get? a mode).isSome then ix.size else ix.size + 1 := by
  rw [← ix.insert_fst a mode b]
  rfl

/-- Clearing lowers the number of buckets where something was filed. -/
theorem size_clear (ix : PrefixIndex β) (a : Address) (mode : HostMode) :
    (ix.clear a mode).size = if (ix.get? a mode).isSome then ix.size - 1 else ix.size := by
  rw [← ix.unregister_fst a mode]
  unfold clear unregister
  cases ix.tree? a mode with
  | none => rfl
  | some t => rfl

/-! ## The longest place above a destination -/

/-- **What a look-up finds** is at the longest place above the destination. -/
theorem isLongest_of_lookup? {ix : PrefixIndex β} {a : Address} {mode : HostMode} {b : β}
    (h : ix.lookup? a mode = some b) :
    ∃ k, PathTree.IsLongest (fun k => ix.at? ⟨mode, a.authority mode, k⟩) a.key k b := by
  obtain ⟨t, ht, hb⟩ := Option.bind_eq_some_iff.mp h
  obtain ⟨k, hk⟩ := PathTree.isLongest_of_longest? hb
  have hget : (fun k => ix.at? ⟨mode, a.authority mode, k⟩) = t.get? := by
    funext k
    show (ix.tree? a mode).bind _ = _
    rw [ht]
    rfl
  exact ⟨k, hget ▸ hk⟩

/-- Where a look-up finds nothing, nothing is filed above the destination. -/
theorem at?_eq_none_of_lookup? {ix : PrefixIndex β} {a : Address} {mode : HostMode}
    (h : ix.lookup? a mode = none) {k : List String} (hk : k <+: a.key) :
    ix.at? ⟨mode, a.authority mode, k⟩ = none := by
  show (ix.tree? a mode).bind _ = none
  cases ht : ix.tree? a mode with
  | none => rfl
  | some t =>
    refine PathTree.get?_eq_none_of_longest? (k := a.key) ?_ hk
    simpa [lookup?, ht] using h

/-- **A look-up finds a bucket** when it is the one at the longest place above the destination. -/
theorem lookup?_eq_some_iff {ix : PrefixIndex β} {a : Address} {mode : HostMode} {b : β} :
    ix.lookup? a mode = some b
      ↔ ∃ k, PathTree.IsLongest (fun k => ix.at? ⟨mode, a.authority mode, k⟩) a.key k b := by
  refine ⟨isLongest_of_lookup?, fun ⟨k, hk⟩ => ?_⟩
  cases hfound : ix.lookup? a mode with
  | none =>
    have hheld : ix.at? ⟨mode, a.authority mode, k⟩ = some b := hk.held
    rw [at?_eq_none_of_lookup? hfound hk.start] at hheld
    cases hheld
  | some b' =>
    obtain ⟨k', hk'⟩ := isLongest_of_lookup? hfound
    rw [(hk'.unique hk).2]

/-- **A look-up finds nothing** when no place above the destination holds anything. -/
theorem lookup?_eq_none_iff {ix : PrefixIndex β} {a : Address} {mode : HostMode} :
    ix.lookup? a mode = none
      ↔ ∀ k, k <+: a.key → ix.at? ⟨mode, a.authority mode, k⟩ = none := by
  refine ⟨fun h k hk => at?_eq_none_of_lookup? h hk, fun h => ?_⟩
  cases hfound : ix.lookup? a mode with
  | none => rfl
  | some b =>
    obtain ⟨k, hk⟩ := isLongest_of_lookup? hfound
    have hheld : ix.at? ⟨mode, a.authority mode, k⟩ = some b := hk.held
    rw [h k hk.start] at hheld
    cases hheld

/-! ## The number of buckets -/

/-- **The number of buckets is that of the places that have one.** -/
def Sized (ix : PrefixIndex β) : Prop :=
  ∃ places : List Place, places.Nodup ∧ (∀ p, p ∈ places ↔ (ix.at? p).isSome = true)
    ∧ ix.size = places.length

theorem sized_empty : (empty : PrefixIndex β).Sized :=
  ⟨[], List.nodup_nil, fun p => by simp, rfl⟩

theorem Sized.file {ix : PrefixIndex β} (h : ix.Sized) (a : Address) (mode : HostMode) (b : β) :
    (ix.file a mode b).Sized := by
  obtain ⟨places, hnodup, hmem, hsize⟩ := h
  have hsize' := ix.size_file a mode b
  rw [get?_eq] at hsize'
  by_cases hp : (ix.at? (a.place mode)).isSome = true
  · refine ⟨places, hnodup, fun p => ?_, by rw [hsize', if_pos hp, hsize]⟩
    rw [at?_file, hmem]
    by_cases hpa : p = a.place mode
    · rw [if_pos hpa, hpa]
      exact iff_of_true hp rfl
    · rw [if_neg hpa]
  · refine ⟨a.place mode :: places, List.nodup_cons.mpr ⟨fun h => hp ((hmem _).mp h), hnodup⟩,
      fun p => ?_, by rw [hsize', if_neg hp, hsize]; rfl⟩
    rw [at?_file, List.mem_cons, hmem]
    by_cases hpa : p = a.place mode
    · rw [if_pos hpa]
      exact iff_of_true (Or.inl hpa) rfl
    · rw [if_neg hpa, or_iff_right hpa]

theorem Sized.clear {ix : PrefixIndex β} (h : ix.Sized) (a : Address) (mode : HostMode) :
    (ix.clear a mode).Sized := by
  obtain ⟨places, hnodup, hmem, hsize⟩ := h
  have hsize' := ix.size_clear a mode
  rw [get?_eq] at hsize'
  refine ⟨places.erase (a.place mode), hnodup.erase _, fun p => ?_, ?_⟩
  · rw [hnodup.mem_erase_iff, at?_clear, hmem]
    by_cases hpa : p = a.place mode
    · rw [if_pos hpa]
      exact iff_of_false (fun h => h.1 hpa) Bool.false_ne_true
    · rw [if_neg hpa, and_iff_right hpa]
  · rw [hsize', List.length_erase, hsize]
    by_cases hp : (ix.at? (a.place mode)).isSome = true
    · rw [if_pos hp, if_pos ((hmem _).mpr hp)]
    · rw [if_neg hp, if_neg (fun h => hp ((hmem _).mp h))]

end PrefixIndex

end Switchboard
