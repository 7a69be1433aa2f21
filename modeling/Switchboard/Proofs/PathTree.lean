import Switchboard.PathTree

/-!
# A path tree is a map

A tree is known by what it holds under each list of segments, which is `get?`. Filing changes that
map at one list (`get?_insert`) and removing empties it there (`get?_remove`), however many nodes
come or go on the way. Both answer with what they find where the way ends, and that is what the map
held there (`insert_fst`, `remove_fst`). And `longest?` reads the same map, at the longest start of a
list that it holds anything under (`isLongest_of_longest?`, `get?_eq_none_of_longest?`).

Pruning is where the removal could go wrong: a node is dropped with all that is below it, so it
must hold nothing. It holds nothing because it is bare, and a bare tree holds nothing anywhere.
-/

namespace Switchboard.PathTree

variable {β : Type}

/-! ## What a tree holds -/

@[simp] theorem get?_nil (t : PathTree β) : t.get? [] = t.bucket := by
  rw [get?]

@[simp] theorem get?_cons (t : PathTree β) (s : String) (ss : List String) :
    t.get? (s :: ss) = (Assoc.get? s t.children).bind fun child => child.get? ss := by
  rw [get?]

@[simp] theorem get?_empty (k : List String) : (empty : PathTree β).get? k = none := by
  cases k with
  | nil => rw [get?_nil]; rfl
  | cons s ss => rw [get?_cons]; rfl

/-- A tree that is still to be made holds nothing. -/
theorem get?_getD_empty (t? : Option (PathTree β)) (k : List String) :
    (t?.getD empty).get? k = t?.bind fun t => t.get? k := by
  cases t? with
  | none => exact get?_empty k
  | some t => rfl

/-- **A bare tree holds nothing.** -/
theorem get?_of_isBare {t : PathTree β} (h : t.isBare = true) (k : List String) :
    t.get? k = none := by
  cases t with
  | node b cs =>
    rw [isBare, Bool.and_eq_true, Option.isNone_iff_eq_none, List.isEmpty_iff] at h
    obtain ⟨rfl, rfl⟩ := h
    exact get?_empty k

/-- **Filing answers with what was held**, also where it makes the nodes on its way. -/
theorem insert_fst (b : β) (t : PathTree β) (k : List String) : (insert b t k).1 = t.get? k := by
  induction k generalizing t with
  | nil => rw [insert, get?_nil]
  | cons s ss ih =>
    rw [insert, get?_cons]
    show (insert b ((Assoc.get? s t.children).getD empty) ss).1 = _
    rw [ih, get?_getD_empty]

/-- **Filing changes what is held under one list.** -/
theorem get?_insert (b : β) (t : PathTree β) (k k' : List String) :
    (insert b t k).2.get? k' = if k' = k then some b else t.get? k' := by
  induction k generalizing t k' with
  | nil =>
    rw [insert]
    cases k' with
    | nil => rfl
    | cons s' ss' => rw [if_neg (List.cons_ne_nil s' ss'), get?_cons, get?_cons]; rfl
  | cons s ss ih =>
    rw [insert]
    cases k' with
    | nil => rfl
    | cons s' ss' =>
      rw [get?_cons, get?_cons]
      show (Assoc.get? s' (Assoc.put s _ t.children)).bind _ = _
      by_cases hs : s' = s
      · subst hs
        rw [Assoc.get?_put_self, Option.bind_some, ih, get?_getD_empty]
        simp only [List.cons.injEq, true_and]
      · rw [Assoc.get?_put_of_ne hs, if_neg (fun h => hs (List.cons.inj h).1)]

/-- **Pruning loses nothing.** A tree is put back under its key, or dropped because it is bare;
either way the lists that lead through it hold what it holds. -/
theorem get?_pruned {κ : Type} [DecidableEq κ] (s s' : κ) (rest : PathTree β)
    (cs : List (κ × PathTree β)) (ss : List String) :
    ((Assoc.get? s' (if rest.isBare then Assoc.drop s cs else Assoc.put s rest cs)).bind
        fun c => c.get? ss)
      = if s' = s then rest.get? ss else (Assoc.get? s' cs).bind fun c => c.get? ss := by
  by_cases hs : s' = s
  · subst hs
    by_cases hbare : rest.isBare = true
    · rw [if_pos hbare, if_pos rfl, Assoc.get?_drop_self, get?_of_isBare hbare]
      rfl
    · rw [if_neg hbare, if_pos rfl, Assoc.get?_put_self]
      rfl
  · by_cases hbare : rest.isBare = true
    · rw [if_pos hbare, if_neg hs, Assoc.get?_drop_of_ne hs]
    · rw [if_neg hbare, if_neg hs, Assoc.get?_put_of_ne hs]

/-- Removing below a child is removing from the child and pruning. -/
theorem remove_cons {t child : PathTree β} {s : String} (h : Assoc.get? s t.children = some child)
    (ss : List String) :
    remove t (s :: ss) = ((remove child ss).1, .node t.bucket
      (if (remove child ss).2.isBare then Assoc.drop s t.children
        else Assoc.put s (remove child ss).2 t.children)) := by
  rw [remove, h]

/-- **Removing answers with what was held**, and with nothing where the way ends early. -/
theorem remove_fst (t : PathTree β) (k : List String) : (remove t k).1 = t.get? k := by
  induction k generalizing t with
  | nil => rw [remove, get?_nil]
  | cons s ss ih =>
    rw [get?_cons]
    cases hc : Assoc.get? s t.children with
    | none => rw [remove, hc]; rfl
    | some child => rw [remove_cons hc]; exact ih child

/-- **Removing empties what is held under one list.** -/
theorem get?_remove (t : PathTree β) (k k' : List String) :
    (remove t k).2.get? k' = if k' = k then none else t.get? k' := by
  induction k generalizing t k' with
  | nil =>
    rw [remove]
    cases k' with
    | nil => rfl
    | cons s' ss' => rw [if_neg (List.cons_ne_nil s' ss'), get?_cons, get?_cons]; rfl
  | cons s ss ih =>
    cases hc : Assoc.get? s t.children with
    | none =>
      rw [remove, hc]
      by_cases hk : k' = s :: ss
      · rw [if_pos hk, hk, get?_cons, hc]
        rfl
      · rw [if_neg hk]
    | some child =>
      rw [remove_cons hc]
      cases k' with
      | nil => rfl
      | cons s' ss' =>
        rw [get?_cons, get?_cons]
        refine (get?_pruned s s' _ t.children ss').trans ?_
        by_cases hs : s' = s
        · subst hs
          rw [if_pos rfl, ih, hc]
          simp
        · rw [if_neg hs, if_neg (fun h => hs (List.cons.inj h).1)]

/-! ## The longest start -/

/-- **`p` is the longest start of `k`** that a map holds anything under, and `b` is what it holds
there. -/
structure IsLongest (get : List String → Option β) (k p : List String) (b : β) : Prop where
  /-- It is a start. -/
  start : p <+: k
  /-- Something is held there. -/
  held : get p = some b
  /-- No longer start holds anything. -/
  longest : ∀ p', p' <+: k → (get p').isSome = true → p'.length ≤ p.length

/-- There is one longest start, and it holds one thing. -/
theorem IsLongest.unique {get : List String → Option β} {k p p' : List String} {b b' : β}
    (h : IsLongest get k p b) (h' : IsLongest get k p' b') : p = p' ∧ b = b' := by
  have hle : p.length ≤ p'.length := h'.longest p h.start (by rw [h.held]; rfl)
  have hge : p'.length ≤ p.length := h.longest p' h'.start (by rw [h'.held]; rfl)
  have hsame : p = p' :=
    (List.prefix_of_prefix_length_le h.start h'.start hle).eq_of_length (Nat.le_antisymm hle hge)
  subst hsame
  exact ⟨rfl, Option.some.inj (h.held.symm.trans h'.held)⟩

/-- A start of a list that goes through a child is empty or starts with the child's segment. -/
theorem prefix_cons {p : List String} {s : String} {ss : List String} (h : p <+: s :: ss) :
    p = [] ∨ ∃ q, p = s :: q ∧ q <+: ss := by
  cases p with
  | nil => exact Or.inl rfl
  | cons s' q =>
    rw [List.cons_prefix_cons] at h
    exact Or.inr ⟨q, by rw [h.1], h.2⟩

/-- **Where nothing is found, no start holds anything.** -/
theorem get?_eq_none_of_longest? {t : PathTree β} {k p : List String} (h : t.longest? k = none)
    (hp : p <+: k) : t.get? p = none := by
  induction k generalizing t p with
  | nil =>
    rw [longest?] at h
    rw [List.prefix_nil.mp hp, get?_nil, h]
  | cons s ss ih =>
    rw [longest?, Option.or_eq_none_iff] at h
    obtain rfl | ⟨q, rfl, hq⟩ := prefix_cons hp
    · rw [get?_nil, h.2]
    · rw [get?_cons]
      cases hc : Assoc.get? s t.children with
      | none => rfl
      | some child => exact ih (by simpa [hc] using h.1) hq

/-- **What is found is held under the longest start.** -/
theorem isLongest_of_longest? {t : PathTree β} {k : List String} {b : β}
    (h : t.longest? k = some b) : ∃ p, IsLongest t.get? k p b := by
  induction k generalizing t with
  | nil =>
    rw [longest?] at h
    refine ⟨[], List.nil_prefix, by rw [get?_nil, h], fun p' hp' _ => ?_⟩
    exact Nat.le_of_eq (congrArg List.length (List.prefix_nil.mp hp'))
  | cons s ss ih =>
    rw [longest?] at h
    cases hdeep : (Assoc.get? s t.children).bind fun child => child.longest? ss with
    | some b' =>
      rw [hdeep, Option.some_or, Option.some.injEq] at h
      subst h
      obtain ⟨child, hc, hb⟩ := Option.bind_eq_some_iff.mp hdeep
      obtain ⟨p, hp⟩ := ih hb
      have hget : ∀ q, t.get? (s :: q) = child.get? q := by
        intro q
        rw [get?_cons, hc]
        rfl
      refine ⟨s :: p, List.cons_prefix_cons.mpr ⟨rfl, hp.start⟩, by rw [hget, hp.held],
        fun p' hp' hheld => ?_⟩
      obtain rfl | ⟨q, rfl, hq⟩ := prefix_cons hp'
      · exact Nat.zero_le _
      · rw [hget] at hheld
        exact Nat.succ_le_succ (hp.longest q hq hheld)
    | none =>
      rw [hdeep, Option.none_or] at h
      refine ⟨[], List.nil_prefix, by rw [get?_nil, h], fun p' hp' hheld => ?_⟩
      obtain rfl | ⟨q, rfl, hq⟩ := prefix_cons hp'
      · exact Nat.le_refl _
      -- the child finds nothing, so no start that goes through it holds anything
      · rw [get?_cons] at hheld
        cases hc : Assoc.get? s t.children with
        | none => simp [hc] at hheld
        | some child =>
          rw [hc, Option.bind_some] at hdeep hheld
          rw [get?_eq_none_of_longest? hdeep hq] at hheld
          cases hheld

end Switchboard.PathTree
