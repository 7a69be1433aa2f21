import Switchboard.Proofs.Conflicts

/-!
# The check of two templates is exact

A template that is refused is one that no request will ever reach, so the check should refuse no more
than it must. Of a longer list it does: it looks only at keys that all constrained templates fix, and
a difference at another key is overlooked. Two templates have no third one to overlook anything. A key
at which they disagree is fixed by both, and this is what a common key of two templates is
(`Template.differ_pair_iff`). So nothing is lost by looking at common keys, and two templates are
refused exactly if they collide.

Where duplicates are allowed, two templates may collide and still pass. Those that ask the same do,
and so do two templates without constraints, of whatever shapes, since the check asks nothing of these
(`Template.admissible_pair_iff`). Of templates of one shape, the latter are among the former: without
constraints and of one shape, they ask the same. It is for this that what the check says where
duplicates are allowed is exact for templates of one shape only (`Template.checkGroup_pair_iff`).
-/

namespace Switchboard.Template

variable {a b : Template}

/-- **Two templates by themselves differ where they disagree**: a key is common if both fix it. -/
theorem differ_pair_iff : Differ [a, b] a b ↔ ∃ key, DisagreeAt key a b := by
  unfold Differ Common DisagreeAt
  simp only [List.mem_pair, forall_eq_or_imp, forall_eq, and_assoc]

/-- A template without constraints differs from no other. -/
theorem not_differ_pair_of_isPlain (ha : a.isPlain) : ¬ Differ [a, b] a b := by
  rintro ⟨key, hcommon, -⟩
  rw [isPlain_of_fixes (hcommon a List.mem_cons_self)] at ha
  cases ha

/-- Two templates are separated if they differ, or ask the same where that is allowed. -/
theorem separated_pair_iff {dup : Bool} :
    Separated dup [a, b] ↔ Differ [a, b] a b ∨ (dup ∧ a.isEquivalent b) := by
  unfold Separated
  rw [List.pairwise_pair, List.pairwise_pair]
  constructor
  · rintro (h | h | ⟨-, h⟩)
    · exact absurd h (by simp)
    · exact Or.inr h
    · exact h
  · rintro (⟨key, hcommon, hne⟩ | h)
    · exact Or.inr (Or.inr ⟨⟨key, hcommon⟩, Or.inl ⟨key, hcommon, hne⟩⟩)
    · exact Or.inr (Or.inl h)

/-- **When two templates are admissible**: they do not collide, or duplicates are allowed, and then
neither has constraints or they ask the same. -/
theorem admissible_pair_iff {dup : Bool} (ha : a.Sound) (hb : b.Sound) :
    Admissible dup [a, b]
      ↔ ¬ a.Collide b ∨ (dup ∧ ((a.isPlain ∧ b.isPlain) ∨ a.isEquivalent b)) := by
  unfold Admissible
  rw [collide_iff ha hb, ← differ_pair_iff]
  cases hpa : a.isPlain with
  | true =>
    have hdiffer := not_differ_pair_of_isPlain (b := b) hpa
    cases hpb : b.isPlain with
    | true => simp [hpa, hpb, hdiffer, Separated]
    | false => simp [hpa, hpb, Separated]
  | false =>
    cases hpb : b.isPlain with
    | true => simp [hpa, hpb, Separated]
    | false =>
      -- the only case in which there are two to be separated
      have hfilter : [a, b].filter (fun t => !t.isPlain) = [a, b] := by simp [hpa, hpb]
      rw [hfilter, separated_pair_iff]
      simp [hpa, hpb]

/-- **The check of two templates is exact.** Two templates pass exactly if they are not both without
constraints and no query matches both interestingly. Where duplicates are allowed, two templates of one
shape pass exactly if they ask the same or the same holds, and two of different shapes exactly if
neither has constraints or the same holds. -/
theorem checkGroup_pair_iff (ha : a.Compiled) (hb : b.Compiled) :
    let separate := ¬ (a.isPlain ∧ b.isPlain)
      ∧ ∀ query, ¬ (a.matchesQuery query false ∧ b.matchesQuery query false)
    (checkGroup false [a, b] = .ok () ↔ separate)
      ∧ (a.shape = b.shape → (checkGroup true [a, b] = .ok () ↔ a.isEquivalent b ∨ separate))
      ∧ (a.shape ≠ b.shape →
        (checkGroup true [a, b] = .ok () ↔ (a.isPlain ∧ b.isPlain) ∨ separate)) := by
  intro separate
  have hseparate : ¬ a.Collide b ↔ separate := by
    unfold Collide
    rw [not_or, not_exists]
  have hcheck : ∀ dup, checkGroup dup [a, b] = .ok ()
      ↔ separate ∨ (dup ∧ ((a.isPlain ∧ b.isPlain) ∨ a.isEquivalent b)) := by
    intro dup
    have hsound : ∀ t ∈ [a, b], t.Sound :=
      List.forall_mem_cons.2 ⟨ha.sound, List.forall_mem_singleton.2 hb.sound⟩
    rw [checkGroup_eq_ok_iff hsound, admissible_pair_iff ha.sound hb.sound, hseparate]
  refine ⟨?_, fun hshape => ?_, fun hshape => ?_⟩
  · rw [hcheck, or_iff_left]
    exact fun h => Bool.false_ne_true h.1
  · have hplain : a.isPlain ∧ b.isPlain → a.isEquivalent b :=
      fun h => (isEquivalent_of_isPlain h.1 h.2).2 hshape
    rw [hcheck, or_iff_right_of_imp hplain, and_iff_right rfl, or_comm]
  · have hequivalent : ¬ a.isEquivalent b :=
      fun h => hshape ((isEquivalent_iff ha.sound hb.sound).1 h).1
    rw [hcheck, or_iff_left hequivalent, and_iff_right rfl, or_comm]

/-- Keys in different case, and an empty value against a text: no query has both. Where the other
template captures instead, a query has both, and where the captures only have other names, the
templates ask the same. Two wildcard templates of different lengths ask nothing. -/
theorem checkGroup_pair_iff_items :
    let a : Template := ⟨"/items?id=1&fmt=\x7bf\x7d", [.literal "items"],
      [("id", .literal "1"), ("fmt", .capture "f")]⟩
    let other : Template := ⟨"/items?ID&fmt=xml", [.literal "items"],
      [("ID", .empty), ("fmt", .literal "xml")]⟩
    let close : Template := ⟨"/items?ID=1&fmt=xml", [.literal "items"],
      [("ID", .literal "1"), ("fmt", .literal "xml")]⟩
    let same : Template := ⟨"/Items?FMT=\x7bg\x7d&Id=1", [.literal "Items"],
      [("FMT", .capture "g"), ("Id", .literal "1")]⟩
    let short : Template := ⟨"/a/*", [.literal "a", .wildcard none], []⟩
    let long : Template := ⟨"/a/\x7bx\x7d/*", [.literal "a", .capture "x", .wildcard none], []⟩
    (∀ t ∈ [a, other, close, same, short, long], t.Compiled)
      ∧ checkGroup false [a, other] = .ok ()
      ∧ (∀ query, ¬ (a.matchesQuery query false ∧ other.matchesQuery query false))
      ∧ a.shape = close.shape ∧ checkGroup true [a, close] ≠ .ok ()
      ∧ checkGroup true [a, same] = .ok () ∧ checkGroup false [a, same] ≠ .ok ()
      ∧ short.shape ≠ long.shape ∧ checkGroup true [short, long] = .ok () := by
  intro a other close same short long
  have hcompile : ∀ t ∈ [a, other, close, same, short, long], compile t.text = .ok t := by
    decide +kernel
  have hcompiled : ∀ t ∈ [a, other, close, same, short, long], t.Compiled :=
    fun t ht => ⟨t.text, hcompile t ht⟩
  have ha : a.Compiled := hcompiled a (by decide +kernel)
  have hother := checkGroup_pair_iff ha (hcompiled other (by decide +kernel))
  have hclose := checkGroup_pair_iff ha (hcompiled close (by decide +kernel))
  have hsame := checkGroup_pair_iff ha (hcompiled same (by decide +kernel))
  have hlong := checkGroup_pair_iff (hcompiled short (by decide +kernel))
    (hcompiled long (by decide +kernel))
  have hok : checkGroup false [a, other] = .ok () := by
    have hsound : ∀ t ∈ [a, other], t.Sound := by
      intro t ht
      refine (hcompiled t ?_).sound
      exact (List.prefix_append [a, other] [close, same, short, long]).subset ht
    rw [checkGroup_eq_ok_iff hsound, ← unsortedFault?_eq_none_iff hsound]
    decide +kernel
  have hshape : a.shape = close.shape := by decide +kernel
  refine ⟨hcompiled, hok, (hother.1.1 hok).2, hshape, fun h => ?_, ?_, fun h => ?_,
    by decide +kernel, ?_⟩
  · -- this query matches both, and they do not ask the same
    rcases (hclose.2.1 hshape).1 h with he | hseparate
    · exact absurd he (by decide +kernel)
    · exact hseparate.2 [("Id", "1"), ("fmt", "xml")] (by decide +kernel)
  · exact (hsame.2.1 (by decide +kernel)).2 (Or.inl (by decide +kernel))
  · exact (hsame.1.1 h).2 [("id", "1")] (by decide +kernel)
  · exact (hlong.2.2 (by decide +kernel)).2 (Or.inl (by decide +kernel))

end Switchboard.Template
