import Mathlib.Data.Finmap
import Switchboard.Proofs.Calls
import Switchboard.Proofs.PrefixIndex

/-!
# The prefix index is a finite map

What the prefix index is meant to be can be said without trees: it is a **finite map** from places
to buckets. Registering adds a place and leaves one that is there alone, inserting sets a place,
unregistering takes one away, and each answers with what the map had before. This module says so and
proves that the index does the same, whatever calls are made on it.

The map is read in three ways. A bucket is got at one place. A look-up takes, of the places above a
destination, the longest one in the map; and the number of buckets is the number of places. The first
two are read off `PrefixIndex.at?`, which the map and the index agree on. The number is kept by hand,
and it is the number of places because each call changes it along with the one place it changes.
-/

namespace Switchboard

variable {β : Type}

/-- **A call on the prefix index.** -/
inductive IndexCall (β : Type) where
  /-- File a bucket unless one is filed there. -/
  | register (address : Address) (mode : HostMode) (bucket : β)
  /-- File a bucket in any case. -/
  | insert (address : Address) (mode : HostMode) (bucket : β)
  /-- Remove what is filed under exactly an address. -/
  | unregister (address : Address) (mode : HostMode)

/-- **What the index replies to a call.** -/
inductive IndexReply (β : Type) where
  /-- Whether the bucket was filed. -/
  | registered (filed : Bool)
  /-- The bucket that was filed there before, if there was one. -/
  | before (bucket : Option β)

/-! ## The map -/

/-- **A finite map from places to buckets.** -/
abbrev PlaceMap (β : Type) := Finmap fun _ : Place => β

/-- A bucket is registered at a place, unless one is there; the answer is whether it was. -/
def PlaceMap.register (M : PlaceMap β) (p : Place) (b : β) : Bool × PlaceMap β :=
  if p ∈ M then (false, M) else (true, M.insert p b)

/-- **What a call replies and leaves**, as the map has it. -/
def PlaceMap.answer (M : PlaceMap β) : IndexCall β → IndexReply β × PlaceMap β
  | .register a mode b =>
    (.registered (M.register (a.place mode) b).1, (M.register (a.place mode) b).2)
  | .insert a mode b => (.before (M.lookup (a.place mode)), M.insert (a.place mode) b)
  | .unregister a mode => (.before (M.lookup (a.place mode)), M.erase (a.place mode))

/-- Inserting changes one place. -/
theorem PlaceMap.lookup_insert_eq (M : PlaceMap β) (q : Place) (b : β) (p : Place) :
    (M.insert q b).lookup p = if p = q then some b else M.lookup p := by
  by_cases h : p = q
  · rw [if_pos h, h, Finmap.lookup_insert]
  · rw [if_neg h, Finmap.lookup_insert_of_ne M h]

/-- Erasing empties one place. -/
theorem PlaceMap.lookup_erase_eq (M : PlaceMap β) (q p : Place) :
    (M.erase q).lookup p = if p = q then none else M.lookup p := by
  by_cases h : p = q
  · rw [if_pos h, h, Finmap.lookup_erase]
  · rw [if_neg h, Finmap.lookup_erase_ne h]

namespace PrefixIndex

/-- **What a call replies and leaves.** -/
def answer (ix : PrefixIndex β) : IndexCall β → IndexReply β × PrefixIndex β
  | .register a mode b => (.registered (ix.register a mode b).1, (ix.register a mode b).2)
  | .insert a mode b => (.before (ix.insert a mode b).1, (ix.insert a mode b).2)
  | .unregister a mode => (.before (ix.unregister a mode).1, (ix.unregister a mode).2)

/-! ## The index and the map -/

/-- **The index mirrors a map**: it holds at every place what the map holds, and its number of
buckets is right. -/
structure Mirrors (ix : PrefixIndex β) (M : PlaceMap β) : Prop where
  /-- What is filed is what the map holds. -/
  at?_eq : ∀ p, ix.at? p = M.lookup p
  /-- The number of buckets is that of the places that have one. -/
  sized : ix.Sized

theorem mirrors_empty : (empty : PrefixIndex β).Mirrors ∅ :=
  ⟨fun p => by rw [at?_empty, Finmap.lookup_empty], sized_empty⟩

section Mirrored

variable {ix : PrefixIndex β} {M : PlaceMap β}

/-- The bucket at an address is the one that the map holds at its place. -/
theorem Mirrors.get?_eq_lookup (h : ix.Mirrors M) (a : Address) (mode : HostMode) :
    ix.get? a mode = M.lookup (a.place mode) := by
  rw [get?_eq, h.at?_eq]

/-- Something is filed under an address when the map has its place. -/
theorem Mirrors.isSome_get? (h : ix.Mirrors M) (a : Address) (mode : HostMode) :
    (ix.get? a mode).isSome = true ↔ a.place mode ∈ M := by
  rw [h.get?_eq_lookup, Finmap.lookup_isSome]

/-- Filing sets a place. -/
theorem Mirrors.file (h : ix.Mirrors M) (a : Address) (mode : HostMode) (b : β) :
    (ix.file a mode b).Mirrors (M.insert (a.place mode) b) :=
  ⟨fun p => by rw [at?_file, PlaceMap.lookup_insert_eq, h.at?_eq], h.sized.file a mode b⟩

/-- Clearing takes a place away. -/
theorem Mirrors.clear (h : ix.Mirrors M) (a : Address) (mode : HostMode) :
    (ix.clear a mode).Mirrors (M.erase (a.place mode)) :=
  ⟨fun p => by rw [at?_clear, PlaceMap.lookup_erase_eq, h.at?_eq], h.sized.clear a mode⟩

/-- Registering sets a place that the map does not have, and leaves one that it has. -/
theorem Mirrors.register (h : ix.Mirrors M) (a : Address) (mode : HostMode) (b : β) :
    (ix.register a mode b).1 = (M.register (a.place mode) b).1
      ∧ (ix.register a mode b).2.Mirrors (M.register (a.place mode) b).2 := by
  unfold PrefixIndex.register PlaceMap.register
  by_cases hfiled : a.place mode ∈ M
  · rw [if_pos hfiled, if_pos ((h.isSome_get? a mode).mpr hfiled)]
    exact ⟨rfl, h⟩
  · rw [if_neg hfiled, if_neg (fun hsome => hfiled ((h.isSome_get? a mode).mp hsome))]
    exact ⟨rfl, h.file a mode b⟩

/-- **A call goes along**: the index replies what the map replies, and mirrors what the map
becomes. -/
theorem Mirrors.answer (h : ix.Mirrors M) (c : IndexCall β) :
    (ix.answer c).1 = (M.answer c).1 ∧ (ix.answer c).2.Mirrors (M.answer c).2 := by
  cases c with
  | register a mode b =>
    obtain ⟨hreply, hmirrors⟩ := h.register a mode b
    exact ⟨congrArg IndexReply.registered hreply, hmirrors⟩
  | insert a mode b =>
    exact ⟨congrArg IndexReply.before ((ix.insert_fst a mode b).trans (h.get?_eq_lookup a mode)),
      h.file a mode b⟩
  | unregister a mode =>
    exact ⟨congrArg IndexReply.before ((ix.unregister_fst a mode).trans (h.get?_eq_lookup a mode)),
      h.clear a mode⟩

/-- **The number of buckets is the number of places in the map.** -/
theorem Mirrors.size_eq (h : ix.Mirrors M) : ix.size = M.keys.card := by
  obtain ⟨places, hnodup, hmem, hsize⟩ := h.sized
  have hkeys : M.keys = places.toFinset := by
    ext p
    rw [Finmap.mem_keys, List.mem_toFinset, hmem, h.at?_eq, Finmap.lookup_isSome]
  rw [hsize, hkeys, List.toFinset_card_of_nodup hnodup]

/-- The index is empty when the map is. -/
theorem Mirrors.isEmpty_iff (h : ix.Mirrors M) : ix.isEmpty = true ↔ M = ∅ := by
  unfold isEmpty
  rw [beq_iff_eq, h.size_eq, Finset.card_eq_zero]
  constructor
  · intro hkeys
    refine Finmap.ext_lookup (fun p => ?_)
    rw [Finmap.lookup_empty, Finmap.lookup_eq_none, ← Finmap.mem_keys, hkeys]
    exact Finset.notMem_empty p
  · rintro rfl
    exact Finmap.keys_empty

end Mirrored

/-! ## Every run -/

/-- **The prefix index is a finite map.** Whatever calls are made on an empty index, it replies as
the map of places does, call by call. After them it holds under every address what the map holds at
the place of the address; a look-up finds the bucket at the longest place in the map that lies above
the destination, and nothing where none does; the number of buckets is the number of places in the
map, and the index is empty when the map is. -/
theorem run_eq_map (calls : List (IndexCall β)) :
    let served := runAll answer (empty : PrefixIndex β) calls
    let kept := runAll PlaceMap.answer (∅ : PlaceMap β) calls
    served.1 = kept.1
      ∧ (∀ a mode, served.2.get? a mode = kept.2.lookup (a.place mode))
      ∧ (∀ a mode b, served.2.lookup? a mode = some b
          ↔ ∃ k, PathTree.IsLongest (fun k => kept.2.lookup ⟨mode, a.authority mode, k⟩) a.key k b)
      ∧ (∀ a mode, served.2.lookup? a mode = none
          ↔ ∀ k, k <+: a.key → kept.2.lookup ⟨mode, a.authority mode, k⟩ = none)
      ∧ served.2.size = kept.2.keys.card
      ∧ (served.2.isEmpty = true ↔ kept.2 = ∅) := by
  intro served kept
  obtain ⟨hreplies, hmirrors⟩ : served.1 = kept.1 ∧ served.2.Mirrors kept.2 :=
    runAll_agrees (fun (ix : PrefixIndex β) M c (h : ix.Mirrors M) => h.answer c) mirrors_empty calls
  have hat : ∀ p, kept.2.lookup p = served.2.at? p := fun p => (hmirrors.at?_eq p).symm
  refine ⟨hreplies, hmirrors.get?_eq_lookup, fun a mode b => ?_, fun a mode => ?_,
    hmirrors.size_eq, hmirrors.isEmpty_iff⟩
  · simp only [hat]
    exact lookup?_eq_some_iff
  · simp only [hat]
    exact lookup?_eq_none_iff

/-- A node that is left without its bucket is passed on the way to one below it. -/
example :
    let host := Address.ofParts "http" "host" none
    let ix := (runAll answer (empty : PrefixIndex Nat)
      [.register (host "/a") .exact 1, .register (host "/a/b/c") .exact 2,
        .unregister (host "/A/") .exact]).2
    ix.lookup? (host "/a/b/C/d") .exact = some 2 ∧ ix.lookup? (host "/a/b") .exact = none
      ∧ ix.size = 1 := by
  decide +kernel

end PrefixIndex

end Switchboard
