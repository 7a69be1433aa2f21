import Switchboard.Proofs.PrefixMap

/-!
# No node is left behind

Removing a bucket goes down to its node and prunes on the way back: a node that is left without bucket and
children is dropped from its parent, and the tree of an authority that is left so is dropped from its
forest. That a look-up never notices is what `PathTree.get?_remove` says, and it would hold as well of an
index that never prunes. This module says what pruning is for: **nothing is kept that nothing is filed
under**.

The invariant is about the trees below a key, those of the children of a node and those of the
authorities of a forest alike (`Stocked`): each key is there once, no tree is bare, and every tree is
pruned all the way down. A root may be bare for a moment, while it is being filed into or after it was
removed from; hence `PathTree.Pruned` says nothing of the root itself.

What is held nowhere is then nowhere in the trees. Removing what is not there finds, on its way, nothing to
prune, so the index is left as it was; and an index that holds nothing has no trees.
-/

namespace Switchboard

/-! ## Keys -/

namespace Assoc

variable {κ β : Type} [DecidableEq κ]

/-- A key is looked up from the front. -/
theorem get?_cons (k : κ) (p : κ × β) (l : List (κ × β)) :
    get? k (p :: l) = if p.1 = k then some p.2 else get? k l := by
  unfold get?
  by_cases hk : p.1 = k <;> simp [hk]

theorem mem_of_get? {k : κ} {v : β} {l : List (κ × β)} (h : get? k l = some v) : (k, v) ∈ l := by
  induction l with
  | nil => cases h
  | cons p l ih =>
    rw [get?_cons] at h
    split at h
    next hk =>
      obtain rfl := Option.some.inj h
      exact hk ▸ List.mem_cons_self
    next => exact List.mem_cons_of_mem p (ih h)

/-- Where keys are not repeated, what stands in the list is found. -/
theorem get?_of_mem {k : κ} {v : β} {l : List (κ × β)} (hkeys : (l.map Prod.fst).Nodup)
    (h : (k, v) ∈ l) : get? k l = some v := by
  induction l with
  | nil => cases h
  | cons p l ih =>
    obtain ⟨hnew, hkeys⟩ := List.nodup_cons.1 hkeys
    rw [get?_cons]
    rcases List.mem_cons.1 h with rfl | h
    · rw [if_pos rfl]
    · rw [if_neg (fun hk => hnew (List.mem_map.2 ⟨(k, v), h, hk.symm⟩)), ih hkeys h]

/-- Setting a key adds it, unless it is there. -/
theorem keys_put (k : κ) (v : β) (l : List (κ × β)) : (put k v l).map Prod.fst
    = if k ∈ l.map Prod.fst then l.map Prod.fst else l.map Prod.fst ++ [k] := by
  induction l with
  | nil => rfl
  | cons p l ih =>
    by_cases hk : p.1 = k
    · simp [put, hk]
    · rw [put, if_neg hk, List.map_cons, ih, List.map_cons]
      by_cases hmem : k ∈ l.map Prod.fst
      · rw [if_pos hmem, if_pos (List.mem_cons_of_mem _ hmem)]
      · rw [if_neg hmem, if_neg (fun h => (List.mem_cons.1 h).elim (Ne.symm hk) hmem)]
        rfl

theorem nodup_keys_put {k : κ} {v : β} {l : List (κ × β)} (h : (l.map Prod.fst).Nodup) :
    ((put k v l).map Prod.fst).Nodup := by
  rw [keys_put]
  split
  · exact h
  next hnew => exact List.nodup_append_comm.1 (List.nodup_cons.2 ⟨hnew, h⟩)

/-- Setting a key brings in one pair. -/
theorem mem_put {k : κ} {v : β} {l : List (κ × β)} {p : κ × β} (h : p ∈ put k v l) :
    p = (k, v) ∨ p ∈ l := by
  induction l with
  | nil => exact Or.inl (List.mem_singleton.1 h)
  | cons q l ih =>
    rw [put] at h
    split at h
    · exact (List.mem_cons.1 h).imp_right (List.mem_cons_of_mem q)
    · rcases List.mem_cons.1 h with rfl | h
      · exact Or.inr List.mem_cons_self
      · exact (ih h).imp_right (List.mem_cons_of_mem q)

theorem put_ne_nil (k : κ) (v : β) (l : List (κ × β)) : put k v l ≠ [] := by
  cases l with
  | nil => exact List.cons_ne_nil _ _
  | cons p l =>
    rw [put]
    split <;> exact List.cons_ne_nil _ _

/-- Setting a key to what it is set to changes nothing. -/
theorem put_eq_self {k : κ} {v : β} {l : List (κ × β)} (h : get? k l = some v) : put k v l = l := by
  induction l with
  | nil => cases h
  | cons p l ih =>
    rw [get?_cons] at h
    split at h
    next hk =>
      obtain rfl := Option.some.inj h
      rw [put, if_pos hk, ← hk]
    next hk => rw [put, if_neg hk, ih h]

end Assoc

/-! ## Trees -/

namespace PathTree

variable {β κ : Type}

/-- **A tree is part of another one**: it is the tree of a node at or below the root. -/
inductive Within : PathTree β → PathTree β → Prop where
  /-- The tree of the root is the tree itself. -/
  | root (t : PathTree β) : Within t t
  /-- What is part of a child is part of the tree. -/
  | under {u c t : PathTree β} {s : String} (child : (s, c) ∈ t.children) (within : Within u c) :
    Within u t

/-- **A pruned tree**: below the root no segment is repeated and no node is bare. -/
inductive Pruned : PathTree β → Prop where
  /-- The children are kept under one segment each, are not bare, and are pruned. -/
  | node {bucket : Option β} {children : List (String × PathTree β)}
    (keys : (children.map Prod.fst).Nodup) (filled : ∀ p ∈ children, p.2.isBare = false)
    (pruned : ∀ p ∈ children, Pruned p.2) : Pruned (.node bucket children)

/-- **Trees by key, none of them left behind**: keys are not repeated, and every tree is pruned and not
bare. -/
structure Stocked (trees : List (κ × PathTree β)) : Prop where
  /-- Each key has one tree. -/
  keys : (trees.map Prod.fst).Nodup
  /-- No tree is bare. -/
  filled : ∀ p ∈ trees, p.2.isBare = false
  /-- Every tree is pruned. -/
  pruned : ∀ p ∈ trees, p.2.Pruned

/-- A tree is pruned when its children are stocked. -/
theorem pruned_iff {t : PathTree β} : t.Pruned ↔ Stocked t.children := by
  constructor
  · rintro ⟨keys, filled, pruned⟩
    exact ⟨keys, filled, pruned⟩
  · cases t with
    | node bucket children => exact fun h => .node h.keys h.filled h.pruned

theorem Pruned.of_children {bucket : Option β} {children : List (String × PathTree β)}
    (h : Stocked children) : (PathTree.node bucket children).Pruned :=
  pruned_iff.2 h

theorem stocked_nil : Stocked ([] : List (κ × PathTree β)) :=
  ⟨List.nodup_nil, fun _ hp => absurd hp List.not_mem_nil, fun _ hp => absurd hp List.not_mem_nil⟩

theorem pruned_empty : (empty : PathTree β).Pruned :=
  pruned_iff.2 stocked_nil

namespace Stocked

variable [DecidableEq κ] {trees : List (κ × PathTree β)} {k : κ} {t : PathTree β}

theorem pruned_of_get? (h : Stocked trees) (ht : Assoc.get? k trees = some t) : t.Pruned :=
  h.pruned _ (Assoc.mem_of_get? ht)

theorem filled_of_get? (h : Stocked trees) (ht : Assoc.get? k trees = some t) : t.isBare = false :=
  h.filled _ (Assoc.mem_of_get? ht)

/-- A tree is put under its key. -/
theorem put (h : Stocked trees) (ht : t.Pruned) (hbare : t.isBare = false) (k : κ) :
    Stocked (Assoc.put k t trees) := by
  refine ⟨Assoc.nodup_keys_put h.keys, fun p hp => ?_, fun p hp => ?_⟩
  · rcases Assoc.mem_put hp with rfl | hp
    · exact hbare
    · exact h.filled p hp
  · rcases Assoc.mem_put hp with rfl | hp
    · exact ht
    · exact h.pruned p hp

/-- A tree is taken away. -/
theorem drop (h : Stocked trees) (k : κ) : Stocked (Assoc.drop k trees) :=
  ⟨h.keys.sublist (List.filter_sublist.map Prod.fst), fun p hp => h.filled p (List.mem_filter.1 hp).1,
    fun p hp => h.pruned p (List.mem_filter.1 hp).1⟩

/-- **Pruning keeps trees stocked**: a tree that is left bare is not put back. -/
theorem prune (h : Stocked trees) (ht : t.Pruned) (k : κ) :
    Stocked (if t.isBare then Assoc.drop k trees else Assoc.put k t trees) := by
  by_cases hbare : t.isBare = true
  · rw [if_pos hbare]
    exact h.drop k
  · rw [if_neg hbare]
    exact h.put ht (Bool.eq_false_iff.2 hbare) k

/-- Putting back what is there, under its key, changes nothing. -/
theorem prune_self (h : Stocked trees) (ht : Assoc.get? k trees = some t) :
    (if t.isBare then Assoc.drop k trees else Assoc.put k t trees) = trees := by
  rw [h.filled_of_get? ht]
  exact Assoc.put_eq_self ht

end Stocked

/-- What is filed into is not bare. -/
theorem isBare_insert (b : β) (t : PathTree β) (k : List String) :
    (insert b t k).2.isBare = false := by
  cases k with
  | nil => rfl
  | cons s ss =>
    rw [insert, isBare, Bool.and_eq_false_iff, List.isEmpty_eq_false_iff]
    exact Or.inr (Assoc.put_ne_nil _ _ _)

/-- **Filing leaves a tree pruned.** The nodes it makes on its way down lead to the new bucket. -/
theorem Pruned.insert (b : β) {t : PathTree β} (h : t.Pruned) (k : List String) :
    (PathTree.insert b t k).2.Pruned := by
  induction k generalizing t with
  | nil =>
    rw [PathTree.insert]
    exact .of_children (pruned_iff.1 h)
  | cons s ss ih =>
    have hchildren := pruned_iff.1 h
    have hchild : ((Assoc.get? s t.children).getD empty).Pruned := by
      cases hc : Assoc.get? s t.children with
      | none => exact pruned_empty
      | some child => exact hchildren.pruned_of_get? hc
    rw [PathTree.insert]
    exact .of_children (hchildren.put (ih hchild) (isBare_insert b _ ss) s)

/-- **Removing leaves a tree pruned**, though perhaps bare. -/
theorem Pruned.remove {t : PathTree β} (h : t.Pruned) (k : List String) :
    (t.remove k).2.Pruned := by
  induction k generalizing t with
  | nil =>
    rw [PathTree.remove]
    exact .of_children (pruned_iff.1 h)
  | cons s ss ih =>
    have hchildren := pruned_iff.1 h
    cases hc : Assoc.get? s t.children with
    | none =>
      rw [PathTree.remove, hc]
      exact h
    | some child =>
      rw [remove_cons hc]
      exact .of_children (hchildren.prune (ih (hchildren.pruned_of_get? hc)) s)

/-- **Removing what is not there changes nothing**: no node on the way is bare, so none is pruned. -/
theorem Pruned.remove_eq_self {t : PathTree β} (h : t.Pruned) {k : List String}
    (hk : t.get? k = none) : t.remove k = (none, t) := by
  induction k generalizing t with
  | nil =>
    cases t with
    | node bucket children =>
      rw [get?_nil] at hk
      rw [PathTree.remove, show bucket = none from hk]
      rfl
  | cons s ss ih =>
    rw [get?_cons] at hk
    have hchildren := pruned_iff.1 h
    cases hc : Assoc.get? s t.children with
    | none => rw [PathTree.remove, hc]
    | some child =>
      rw [hc, Option.bind_some] at hk
      rw [remove_cons hc, ih (hchildren.pruned_of_get? hc) hk]
      dsimp only
      rw [hchildren.prune_self hc]
      cases t
      rfl

/-- No part of a pruned tree is bare, if the tree is not. -/
theorem Pruned.of_within {t u : PathTree β} (hu : Within u t) (h : t.Pruned) (hbare : t.isBare = false) :
    u.Pruned ∧ u.isBare = false := by
  induction hu with
  | root => exact ⟨h, hbare⟩
  | under hchild _ ih =>
    have hchildren := pruned_iff.1 h
    exact ih (hchildren.pruned _ hchild) (hchildren.filled _ hchild)

/-- **Every pruned tree that is not bare holds a bucket**: some node of it has one, and the segments that
lead there are found. -/
theorem Pruned.exists_bucket {t : PathTree β} (h : t.Pruned) (hbare : t.isBare = false) :
    ∃ u k, Within u t ∧ t.get? k = u.bucket ∧ u.bucket.isSome = true := by
  induction h with
  | @node bucket children keys filled _ ih =>
    cases bucket with
    | some b => exact ⟨_, [], .root _, get?_nil _, rfl⟩
    | none =>
      have hchildren : children ≠ [] := fun hnil => by
        rw [hnil] at hbare
        cases hbare
      obtain ⟨⟨s, child⟩, hchild⟩ := List.exists_mem_of_ne_nil children hchildren
      obtain ⟨u, k, hu, hget, hsome⟩ := ih _ hchild (filled _ hchild)
      refine ⟨u, s :: k, .under hchild hu, ?_, hsome⟩
      rw [get?_cons, show Assoc.get? s (PathTree.node none children).children = some child from
        Assoc.get?_of_mem keys hchild]
      exact hget

end PathTree

/-! ## The index -/

/-- **The place that a call is about.** -/
def IndexCall.place {β : Type} : IndexCall β → Place
  | .register a mode _ => a.place mode
  | .insert a mode _ => a.place mode
  | .unregister a mode => a.place mode

namespace PrefixIndex

variable {β : Type}

/-- **A pruned index**: the trees of both host modes are stocked. -/
def Pruned (ix : PrefixIndex β) : Prop :=
  ∀ mode, PathTree.Stocked (ix.forest mode)

theorem pruned_empty : (empty : PrefixIndex β).Pruned := by
  intro mode
  cases mode <;> exact PathTree.stocked_nil

theorem Pruned.withForest {ix : PrefixIndex β} (h : ix.Pruned) (mode : HostMode) {trees : Forest β}
    (htrees : PathTree.Stocked trees) : (ix.withForest mode trees).Pruned := by
  intro mode'
  cases mode with
  | exact =>
    cases mode' with
    | exact => exact htrees
    | anyHost => exact h .anyHost
  | anyHost =>
    cases mode' with
    | exact => exact h .exact
    | anyHost => exact htrees

/-- Replacing the trees of a mode by themselves changes nothing. -/
theorem withForest_forest (ix : PrefixIndex β) (mode : HostMode) :
    ix.withForest mode (ix.forest mode) = ix := by
  cases mode <;> rfl

/-- **Filing leaves an index pruned.** -/
theorem Pruned.file {ix : PrefixIndex β} (h : ix.Pruned) (a : Address) (mode : HostMode) (b : β) :
    (ix.file a mode b).Pruned := by
  have htree : ((ix.tree? a mode).getD .empty).Pruned := by
    cases ht : ix.tree? a mode with
    | none => exact PathTree.pruned_empty
    | some t => exact (h mode).pruned_of_get? ht
  exact h.withForest mode
    ((h mode).put (htree.insert b a.key) (PathTree.isBare_insert b _ a.key) (a.authority mode))

/-- **Clearing leaves an index pruned.** -/
theorem Pruned.clear {ix : PrefixIndex β} (h : ix.Pruned) (a : Address) (mode : HostMode) :
    (ix.clear a mode).Pruned := by
  unfold PrefixIndex.clear unregister
  cases ht : ix.tree? a mode with
  | none => exact h
  | some t =>
    exact h.withForest mode
      ((h mode).prune (((h mode).pruned_of_get? ht).remove a.key) (a.authority mode))

/-- **Clearing what is not filed changes nothing.** -/
theorem Pruned.clear_eq_self {ix : PrefixIndex β} (h : ix.Pruned) {a : Address} {mode : HostMode}
    (ha : ix.get? a mode = none) : ix.clear a mode = ix := by
  unfold PrefixIndex.clear unregister
  cases ht : ix.tree? a mode with
  | none => rfl
  | some t =>
    have hget : t.get? a.key = none := by
      rw [get?, ht] at ha
      exact ha
    dsimp only
    rw [((h mode).pruned_of_get? ht).remove_eq_self hget]
    dsimp only
    rw [(h mode).prune_self ht, withForest_forest]
    rfl

/-- **What a call can do**: nothing, or file a bucket at the place that it is about, or clear that
place. -/
theorem answer_cases (ix : PrefixIndex β) (c : IndexCall β) :
    ∃ a mode, c.place = Address.place a mode
      ∧ ((ix.answer c).2 = ix ∨ (∃ b, (ix.answer c).2 = ix.file a mode b)
        ∨ (ix.answer c).2 = ix.clear a mode) := by
  cases c with
  | register a mode b =>
    refine ⟨a, mode, rfl, ?_⟩
    by_cases hfiled : (ix.get? a mode).isSome = true
    · refine Or.inl ?_
      show (ix.register a mode b).2 = ix
      unfold register
      rw [if_pos hfiled]
    · refine Or.inr (Or.inl ⟨b, ?_⟩)
      show (ix.register a mode b).2 = ix.file a mode b
      unfold register
      rw [if_neg hfiled]
  | insert a mode b => exact ⟨a, mode, rfl, Or.inr (Or.inl ⟨b, rfl⟩)⟩
  | unregister a mode => exact ⟨a, mode, rfl, Or.inr (Or.inr rfl)⟩

/-- **A call leaves an index pruned.** -/
theorem Pruned.answer {ix : PrefixIndex β} (h : ix.Pruned) (c : IndexCall β) :
    (ix.answer c).2.Pruned := by
  obtain ⟨a, mode, -, hsame | ⟨b, hfile⟩ | hclear⟩ := ix.answer_cases c
  · exact hsame.symm ▸ h
  · exact hfile.symm ▸ h.file a mode b
  · exact hclear.symm ▸ h.clear a mode

/-- A call leaves the number of buckets right. -/
theorem Sized.answer {ix : PrefixIndex β} (h : ix.Sized) (c : IndexCall β) : (ix.answer c).2.Sized := by
  obtain ⟨a, mode, -, hsame | ⟨b, hfile⟩ | hclear⟩ := ix.answer_cases c
  · exact hsame.symm ▸ h
  · exact hfile.symm ▸ h.file a mode b
  · exact hclear.symm ▸ h.clear a mode

/-- **A call changes the place that it is about** and no other. -/
theorem at?_answer_of_ne (ix : PrefixIndex β) {c : IndexCall β} {p : Place} (hp : p ≠ c.place) :
    (ix.answer c).2.at? p = ix.at? p := by
  obtain ⟨a, mode, hplace, hsame | ⟨b, hfile⟩ | hclear⟩ := ix.answer_cases c
  · rw [hsame]
  · rw [hfile, at?_file, ← hplace, if_neg hp]
  · rw [hclear, at?_clear, ← hplace, if_neg hp]

/-- **Where nothing is held, there are no trees.** -/
theorem Pruned.forest_eq_nil {ix : PrefixIndex β} (h : ix.Pruned) (hnone : ∀ p, ix.at? p = none)
    (mode : HostMode) : ix.forest mode = [] := by
  refine List.eq_nil_iff_forall_not_mem.2 (fun ⟨authority, t⟩ hentry => ?_)
  obtain ⟨u, k, -, hget, hsome⟩ := ((h mode).pruned _ hentry).exists_bucket ((h mode).filled _ hentry)
  have hat : ix.at? ⟨mode, authority, k⟩ = u.bucket := by
    unfold at?
    rw [show Assoc.get? authority (ix.forest mode) = some t from
      Assoc.get?_of_mem (h mode).keys hentry]
    exact hget
  rw [← hat, hnone] at hsome
  cases hsome

/-- An index without trees whose number of buckets is right is the empty one. -/
theorem Pruned.eq_empty {ix : PrefixIndex β} (h : ix.Pruned) (hsized : ix.Sized)
    (hnone : ∀ p, ix.at? p = none) : ix = empty := by
  obtain ⟨places, -, hmem, hsize⟩ := hsized
  have hplaces : places = [] := by
    refine List.eq_nil_iff_forall_not_mem.2 (fun p hp => ?_)
    have hheld := (hmem p).1 hp
    rw [hnone] at hheld
    cases hheld
  have hexact : ix.exact = [] := h.forest_eq_nil hnone .exact
  have hany : ix.anyHost = [] := h.forest_eq_nil hnone .anyHost
  rw [hplaces, List.length_nil] at hsize
  cases ix
  obtain rfl := hexact
  obtain rfl := hany
  obtain rfl := hsize
  rfl

/-! ## Every run -/

/-- **What is held after some calls** was held before them, or a call was about it. -/
theorem exists_call_of_isSome {ix : PrefixIndex β} {calls : List (IndexCall β)} {p : Place}
    (h : ((runAll answer ix calls).2.at? p).isSome = true) :
    (ix.at? p).isSome = true ∨ ∃ c ∈ calls, c.place = p := by
  induction calls generalizing ix with
  | nil => exact Or.inl h
  | cons c calls ih =>
    by_cases hp : p = c.place
    · exact Or.inr ⟨c, List.mem_cons_self, hp.symm⟩
    · rcases @ih (ix.answer c).2 h with hheld | ⟨c', hc', hplace⟩
      · rw [at?_answer_of_ne ix hp] at hheld
        exact Or.inl hheld
      · exact Or.inr ⟨c', List.mem_cons_of_mem c hc', hplace⟩

/-- **Unregistering addresses one after another** empties their places and no others. -/
theorem at?_unregister_all (ix : PrefixIndex β) (filed : List (Address × HostMode)) (p : Place) :
    (runAll answer ix (filed.map fun f => .unregister f.1 f.2)).2.at? p
      = if p ∈ filed.map (fun f => f.1.place f.2) then none else ix.at? p := by
  induction filed generalizing ix with
  | nil => rfl
  | cons f filed ih =>
    show (runAll answer (ix.clear f.1 f.2) _).2.at? p = _
    rw [ih, at?_clear, List.map_cons]
    by_cases hmem : p ∈ filed.map (fun f => f.1.place f.2)
    · rw [if_pos hmem, if_pos (List.mem_cons_of_mem _ hmem)]
    · rw [if_neg hmem]
      by_cases hp : p = f.1.place f.2
      · rw [if_pos hp, if_pos (hp ▸ List.mem_cons_self)]
      · rw [if_neg hp, if_neg (fun h => (List.mem_cons.1 h).elim hp hmem)]

/-- **The index stays pruned.** After any calls on an empty index: no node in it is without bucket and
children, neither the root of an authority nor any node below, and each of them has a bucket at or below
it; unregistering an address under which nothing is filed answers so and leaves the index exactly as it
was; and unregistering addresses, in any order and with any others among them, until every filed one was
named leaves the empty index, which has no tree for any authority in either host mode. -/
theorem run_pruned (calls : List (IndexCall β)) :
    let ix := (runAll answer (empty : PrefixIndex β) calls).2
    (∀ mode, ∀ entry ∈ ix.forest mode, ∀ t, PathTree.Within t entry.2 →
        t.isBare = false ∧ ∃ u, PathTree.Within u t ∧ u.bucket.isSome = true)
      ∧ (∀ a mode, ix.get? a mode = none → ix.unregister a mode = (none, ix))
      ∧ ∀ filed : List (Address × HostMode),
          (∀ a mode, (ix.get? a mode).isSome = true → a.place mode ∈ filed.map fun f => f.1.place f.2) →
          let left := (runAll answer ix (filed.map fun f => .unregister f.1 f.2)).2
          left = empty ∧ left.exact = [] ∧ left.anyHost = [] := by
  intro ix
  have hpruned : ix.Pruned :=
    runAll_preserves (fun (ix : PrefixIndex β) c (h : ix.Pruned) => h.answer c) pruned_empty calls
  have hsized : ix.Sized :=
    runAll_preserves (fun (ix : PrefixIndex β) c (h : ix.Sized) => h.answer c) sized_empty calls
  refine ⟨fun mode entry hentry t ht => ?_, fun a mode ha => ?_, fun filed hfiled => ?_⟩
  · obtain ⟨ht, hbare⟩ :=
      PathTree.Pruned.of_within ht ((hpruned mode).pruned _ hentry) ((hpruned mode).filled _ hentry)
    obtain ⟨u, -, hu, -, hsome⟩ := ht.exists_bucket hbare
    exact ⟨hbare, u, hu, hsome⟩
  · exact Prod.ext ((ix.unregister_fst a mode).trans ha) (hpruned.clear_eq_self ha)
  · intro left
    have hleft : left.Pruned :=
      runAll_preserves (fun (ix : PrefixIndex β) c (h : ix.Pruned) => h.answer c) hpruned _
    have hnone : ∀ p, left.at? p = none := by
      intro p
      rw [at?_unregister_all]
      by_cases hheld : (ix.at? p).isSome = true
      · obtain hempty | ⟨c, -, rfl⟩ := exists_call_of_isSome hheld
        · rw [at?_empty] at hempty
          cases hempty
        · obtain ⟨a, mode, hc, -⟩ := ix.answer_cases c
          rw [hc] at hheld ⊢
          rw [if_pos (hfiled a mode hheld)]
      · rw [Bool.not_eq_true, Option.isSome_eq_false_iff, Option.isNone_iff_eq_none] at hheld
        rw [hheld, ite_self]
    have hempty : left = empty :=
      hleft.eq_empty
        (runAll_preserves (fun (ix : PrefixIndex β) c (h : ix.Sized) => h.answer c) hsized _) hnone
    exact ⟨hempty, congrArg PrefixIndex.exact hempty, congrArg PrefixIndex.anyHost hempty⟩

/-- Removing an inner address, and one that stops halfway down, leaves the node on the way; removing the
other address, written otherwise, leaves nothing. -/
theorem run_pruned_services :
    let host := Address.ofParts "http" "host" none
    let calls : List (IndexCall Nat) := [.insert (host "/a/b/c") .exact 2, .insert (host "/a") .exact 1,
      .unregister (host "/a/b") .exact, .unregister (host "/a") .exact]
    let ix := (runAll answer (empty : PrefixIndex Nat) calls).2
    ix.get? (host "/a/b/c") .exact = some 2
      ∧ ix.get? (host "/a/b") .exact = none ∧ ix.unregister (host "/a/b") .exact = (none, ix)
      ∧ (runAll answer ix [.unregister (host "/x") .anyHost, .unregister (host "/A/B/c/") .exact]).2
        = empty := by
  intro host calls ix
  obtain ⟨-, hmiss, hall⟩ := run_pruned calls
  have hnone : ix.get? (host "/a/b") .exact = none := by decide +kernel
  refine ⟨by decide +kernel, hnone, hmiss _ _ hnone, ?_⟩
  refine (hall [(host "/x", .anyHost), (host "/A/B/c/", .exact)] (fun a mode h => ?_)).1
  rw [get?_eq] at h
  obtain hempty | ⟨c, hc, hplace⟩ := exists_call_of_isSome h
  · rw [at?_empty] at hempty
    cases hempty
  · rw [← hplace] at h ⊢
    simp only [calls, List.mem_cons, List.not_mem_nil, or_false] at hc
    rcases hc with rfl | rfl | rfl | rfl
    · decide +kernel
    · exact absurd h (by decide +kernel)
    · exact absurd h (by decide +kernel)
    · exact absurd h (by decide +kernel)

end PrefixIndex

end Switchboard
