import Mathlib.Data.List.NodupEquivFin
import Mathlib.Data.List.Permutation
import Switchboard.Proofs.Demands
import Switchboard.Proofs.Shape
import Switchboard.Proofs.TemplateRemoval

/-!
# What a reported conflict says

Two templates **collide** if a request can match both of them: both accept every query, or some query
matches both interestingly. What makes a collision is known exactly (`Template.collide_iff`): either
both templates have constraints or neither has, and there is no key at which both fix a value, and not
the same one. Where there is such a key, no query has both values; where there is none, a query is made
to order that shows each of the two templates what it fixes.

The check reports templates that it cannot tell apart, and it looks at fewer keys than that: only at
those that **all** constrained templates of the list fix. A key at which two of them disagree does not
count if a third one leaves it open, so a report is not always a collision. It is one unless a
difference was **overlooked** in this way (`Template.Overlooked`), and that is all there is to it
(`Template.conflict_iff_collide`): the two templates that a report names collide exactly if no
difference between them was overlooked, and a report that names only one template has a collision
behind it exactly if there are two templates, both with constraints or both without, for which none
was.

With at most two constrained templates nothing can be overlooked. Three are enough for a report without
any collision, with two templates named or with one (`Template.conflict_without_collision`).
-/

namespace Switchboard

/-- Two of a list, in any order, stand at different places of it. -/
theorem exists_places_of_subperm {α : Type} {a b : α} {l : List α} (h : [a, b].Subperm l) :
    ∃ i j : Nat, i ≠ j ∧ l[i]? = some a ∧ l[j]? = some b := by
  obtain ⟨pair, hperm, hsublist⟩ := h
  obtain ⟨place, hplace⟩ := List.sublist_iff_exists_orderEmbedding_getElem?_eq.1 hsublist
  have hne : place 0 ≠ place 1 := fun h => absurd (place.injective h) Nat.zero_ne_one
  have hfirst := (hplace 0).symm
  have hsecond := (hplace 1).symm
  rcases List.perm_pair.1 hperm with rfl | rfl
  · exact ⟨place 0, place 1, hne, hfirst, hsecond⟩
  · exact ⟨place 1, place 0, hne.symm, hsecond, hfirst⟩

namespace Template

/-! ## Collisions -/

/-- **Two templates collide** if they both accept every query, or some query matches both
interestingly. -/
def Collide (a b : Template) : Prop :=
  (a.isPlain ∧ b.isPlain) ∨ ∃ query, a.matchesQuery query false ∧ b.matchesQuery query false

/-- **Two templates disagree at a key** if both fix a value there, and not the same one. -/
def DisagreeAt (key : String) (a b : Template) : Prop :=
  a.fixes key ∧ b.fixes key ∧ a.fixed? key ≠ b.fixed? key

instance (key : String) (a b : Template) : Decidable (DisagreeAt key a b) :=
  inferInstanceAs (Decidable (_ ∧ _ ∧ _))

theorem fixes_congr {j k : String} (h : Ascii.Same j k) (t : Template) : t.fixes j = t.fixes k :=
  congrArg (Option.any QueryValue.isFixed) (query?_congr h t)

theorem fixed?_congr {j k : String} (h : Ascii.Same j k) (t : Template) : t.fixed? j = t.fixed? k :=
  congrArg (Option.bind · QueryValue.fixed?) (query?_congr h t)

/-- A sound template fixes what each of its constraints fixes. -/
theorem Sound.fixed?_of_mem {t : Template} (ht : t.Sound) {c : String × QueryValue}
    (hc : c ∈ t.queries) : t.fixed? c.1 = c.2.fixed? :=
  congrArg (Option.bind · QueryValue.fixed?) (ht.query?_of_mem hc)

theorem fixes_of_fixed? {t : Template} {key text : String} (h : t.fixed? key = some text) :
    t.fixes key := by
  rw [← isSome_fixed?, h]
  rfl

/-- A template without constraints fixes nothing. -/
theorem isPlain_of_fixes {t : Template} {key : String} (h : t.fixes key) : t.isPlain = false := by
  obtain ⟨v, hv, -⟩ := (Option.any_eq_true _ _).1 h
  obtain ⟨c, hc, -⟩ := mem_of_query? hv
  exact Bool.eq_false_iff.2 (fun hplain => List.ne_nil_of_mem hc (List.isEmpty_iff.1 hplain))

theorem fixed?_of_isPlain {t : Template} (h : t.isPlain) (key : String) : t.fixed? key = none := by
  by_contra hsome
  obtain ⟨text, htext⟩ := Option.ne_none_iff_exists'.1 hsome
  rw [isPlain_of_fixes (fixes_of_fixed? htext)] at h
  cases h

/-- **Templates that disagree nowhere share a query.** It shows at each key what the first one fixes
there, or else what the second one fixes. -/
theorem exists_query_of_not_disagree {a b : Template} (ha : a.Sound) (hb : b.Sound)
    (hpa : a.isPlain = false) (hpb : b.isPlain = false) (h : ¬ ∃ key, DisagreeAt key a b) :
    ∃ query, a.matchesQuery query false ∧ b.matchesQuery query false := by
  let shown : String → Option String := fun key => (a.fixed? key).or (b.fixed? key)
  have hcase : ∀ {j k}, Ascii.Same j k → shown j = shown k :=
    fun hjk => congrArg₂ Option.or (fixed?_congr hjk a) (fixed?_congr hjk b)
  have hnotstrict : ∀ value : Option String, false = true → value.isSome = true :=
    fun _ hstrict => absurd hstrict Bool.false_ne_true
  refine ⟨Query.showing ((a.queries ++ b.queries).map Prod.fst) shown,
    matchesQuery_iff.2 ⟨hpa, fun c hc => ?_⟩, matchesQuery_iff.2 ⟨hpb, fun c hc => ?_⟩⟩
  · rw [Query.value?_showing hcase (List.mem_map_of_mem (List.mem_append_left _ hc))]
    cases hfixed : c.2.fixed? with
    | none => exact (QueryValue.accepts_of_not_fixed hfixed).2 (hnotstrict _)
    | some text =>
      refine (QueryValue.accepts_of_fixed? hfixed).2 ?_
      show (a.fixed? c.1).or _ = some text
      rw [ha.fixed?_of_mem hc, hfixed]
      rfl
  · rw [Query.value?_showing hcase (List.mem_map_of_mem (List.mem_append_right _ hc))]
    cases hfixed : c.2.fixed? with
    | none => exact (QueryValue.accepts_of_not_fixed hfixed).2 (hnotstrict _)
    | some text =>
      have hbtext : b.fixed? c.1 = some text := (hb.fixed?_of_mem hc).trans hfixed
      refine (QueryValue.accepts_of_fixed? hfixed).2 ?_
      show (a.fixed? c.1).or (b.fixed? c.1) = some text
      cases hatext : a.fixed? c.1 with
      | none => rw [Option.none_or, hbtext]
      | some text' =>
        -- both fix the value, and they do not disagree
        rw [Option.some_or, ← hbtext, ← hatext]
        by_contra hne
        exact h ⟨c.1, fixes_of_fixed? hatext, fixes_of_fixed? hbtext, hne⟩

/-- No query matches templates that disagree. -/
theorem DisagreeAt.not_matchesQuery {a b : Template} {key : String} (h : DisagreeAt key a b)
    {query : Query} (hqa : a.matchesQuery query false) : ¬ b.matchesQuery query false := by
  obtain ⟨hak, hbk, hne⟩ := h
  have hdiffer : Differ [a, b] a b := by
    refine ⟨key, fun t ht => ?_, hne⟩
    rcases List.mem_pair.1 ht with rfl | rfl
    · exact hak
    · exact hbk
  exact hdiffer.not_matchesQuery (List.mem_pair.2 (Or.inl rfl)) (List.mem_pair.2 (Or.inr rfl)) hqa

/-- **When two templates collide**: both have constraints or neither has, and they disagree at no
key. -/
theorem collide_iff {a b : Template} (ha : a.Sound) (hb : b.Sound) :
    a.Collide b ↔ a.isPlain = b.isPlain ∧ ¬ ∃ key, DisagreeAt key a b := by
  constructor
  · rintro (⟨hpa, hpb⟩ | ⟨query, hqa, hqb⟩)
    · refine ⟨hpa.trans hpb.symm, ?_⟩
      rintro ⟨key, hak, -⟩
      rw [isPlain_of_fixes hak] at hpa
      cases hpa
    · refine ⟨(isPlain_of_matchesQuery hqa).trans (isPlain_of_matchesQuery hqb).symm, ?_⟩
      rintro ⟨key, hkey⟩
      exact hkey.not_matchesQuery hqa hqb
  · rintro ⟨hplain, hagree⟩
    cases hpb : b.isPlain with
    | true => exact Or.inl ⟨hplain.trans hpb, hpb⟩
    | false => exact Or.inr (exists_query_of_not_disagree ha hb (hplain.trans hpb) hpb hagree)

/-! ## Differences that are overlooked -/

/-- **A difference between two templates is overlooked** in a list if they disagree at a key that some
constrained template of the list leaves open. -/
def Overlooked (ts : List Template) (a b : Template) : Prop :=
  ∃ key, DisagreeAt key a b ∧ ∃ c ∈ ts, c.isPlain = false ∧ c.fixes key = false

/-- Templates disagree at a key as one of them writes it. -/
theorem DisagreeAt.exists_mem {a b : Template} {key : String} (h : DisagreeAt key a b) :
    ∃ q ∈ a.queries, Ascii.Same q.1 key := by
  obtain ⟨v, hv, -⟩ := (Option.any_eq_true _ _).1 h.1
  obtain ⟨q, hq, hkey, -⟩ := mem_of_query? hv
  exact ⟨q, hq, hkey⟩

/-- Whether a difference is overlooked shows at the keys of the first template. -/
theorem overlooked_iff {ts : List Template} {a b : Template} : Overlooked ts a b
    ↔ ∃ q ∈ a.queries, DisagreeAt q.1 a b ∧ ∃ c ∈ ts, c.isPlain = false ∧ c.fixes q.1 = false := by
  constructor
  · rintro ⟨key, hdisagree, c, hc, hplain, hopen⟩
    obtain ⟨q, hq, hkey⟩ := hdisagree.exists_mem
    refine ⟨q, hq, ?_, c, hc, hplain, (fixes_congr hkey c).trans hopen⟩
    unfold DisagreeAt
    rwa [fixes_congr hkey, fixes_congr hkey, fixed?_congr hkey, fixed?_congr hkey]
  · rintro ⟨q, -, h⟩
    exact ⟨q.1, h⟩

instance (ts : List Template) (a b : Template) : Decidable (Overlooked ts a b) :=
  decidable_of_iff _ overlooked_iff.symm

/-- Templates without a difference at the common keys disagree only where it is overlooked. -/
theorem disagree_iff_overlooked {ts cs : List Template} {a b : Template}
    (hcs : ∀ c ∈ cs, c ∈ ts ∧ c.isPlain = false) (h : ¬ Differ cs a b) :
    (∃ key, DisagreeAt key a b) ↔ Overlooked ts a b := by
  refine ⟨?_, fun ⟨key, hkey, _⟩ => ⟨key, hkey⟩⟩
  rintro ⟨key, hkey⟩
  by_contra hopen
  refine h ⟨key, fun c hc => ?_, hkey.2.2⟩
  by_contra hfixes
  exact hopen ⟨key, hkey, c, (hcs c hc).1, (hcs c hc).2, Bool.eq_false_iff.2 hfixes⟩

/-! ## Reports -/

/-- **What is reported of constrained templates**: two that do not differ at a common key, or the first
one if there is no common key. -/
theorem of_constrainedFault?_eq_some {dup : Bool} {ts : List Template} {e : DispatchError}
    (hs : ∀ t ∈ ts, t.Sound) (h : constrainedFault? dup ts = some e) :
    (∃ a b reason, [a, b].Sublist ts ∧ ¬ Differ ts a b
        ∧ e = .conflict a.text (some b.text) reason)
      ∨ ∃ a ∈ ts, (∀ b c, ¬ Differ ts b c) ∧ e = .conflict a.text none .noCommonKey := by
  match ts, hs, h with
  | t :: u :: ts, hs, h =>
    unfold constrainedFault? at h
    dsimp only at h
    split at h
    next hempty =>
      -- there is no key at which two templates could differ
      split at h
      · cases h
      refine Or.inr ⟨t, List.mem_cons_self, ?_, (Option.some.inj h).symm⟩
      rintro b c ⟨key, hcommon, -⟩
      rw [commonKeys_isEmpty.2 ⟨key, hcommon⟩] at hempty
      cases hempty
    next =>
      obtain ⟨a, b, hsublist, hclash⟩ := of_firstClash?_eq_some h
      obtain ⟨hagree, reason, rfl⟩ := of_clash?_eq_some hclash
      refine Or.inl ⟨a, b, reason, hsublist, fun hdiffer => ?_, rfl⟩
      have ha := hsublist.subset (List.mem_pair.2 (Or.inl rfl))
      have hb := hsublist.subset (List.mem_pair.2 (Or.inr rfl))
      rw [(agreeOn_commonKeys hs ha hb).2 hdiffer] at hagree
      cases hagree

/-- A constrained template of the sorted list is one of the list. -/
theorem of_mem_constrained {ts : List Template} {c : Template} (hc : c ∈ constrained ts) :
    c ∈ ts ∧ c.isPlain = false := by
  obtain ⟨hc, hplain⟩ := List.mem_filter.1 ((constrained_perm ts).subset hc)
  exact ⟨hc, by rwa [Bool.not_eq_true'] at hplain⟩

/-- **What the check reports**: two templates at different places, both with constraints or both without,
that do not differ at a key common to the constrained ones; or one template, if no two differ at such a
key. -/
theorem of_groupFault?_eq_some {dup : Bool} {ts : List Template} {e : DispatchError}
    (hs : ∀ t ∈ ts, t.Sound) (h : groupFault? dup ts = some e) :
    (∃ a b reason, [a, b].Subperm ts ∧ a.isPlain = b.isPlain ∧ ¬ Differ (constrained ts) a b
        ∧ e = .conflict a.text (some b.text) reason)
      ∨ ∃ a ∈ ts, (∀ b c, ¬ Differ (constrained ts) b c)
          ∧ e = .conflict a.text none .noCommonKey := by
  unfold groupFault? at h
  rw [Option.or_eq_some_iff] at h
  rcases h with h | ⟨-, h⟩
  · obtain ⟨a, b, hsublist, rfl⟩ := of_plainFault?_eq_some h
    have hplain : ∀ t ∈ [a, b], t.isPlain :=
      fun t ht => (List.mem_filter.1 (hsublist.subset ht)).2
    have ha := hplain a (List.mem_pair.2 (Or.inl rfl))
    have hb := hplain b (List.mem_pair.2 (Or.inr rfl))
    refine Or.inl ⟨a, b, _, (hsublist.trans List.filter_sublist).subperm, ha.trans hb.symm, ?_, rfl⟩
    -- neither fixes anything
    rintro ⟨key, -, hne⟩
    exact hne ((fixed?_of_isPlain ha key).trans (fixed?_of_isPlain hb key).symm)
  · have hsound : ∀ t ∈ constrained ts, t.Sound := fun t ht => hs t (of_mem_constrained ht).1
    rcases of_constrainedFault?_eq_some hsound h with
      ⟨a, b, reason, hsublist, hdiffer, rfl⟩ | ⟨a, ha, hdiffer, rfl⟩
    · have ha := of_mem_constrained (hsublist.subset (List.mem_pair.2 (Or.inl rfl)))
      have hb := of_mem_constrained (hsublist.subset (List.mem_pair.2 (Or.inr rfl)))
      refine Or.inl ⟨a, b, reason, ?_, ha.2.trans hb.2.symm, hdiffer, rfl⟩
      exact (hsublist.subperm.trans (constrained_perm ts).subperm).trans List.filter_sublist.subperm
    · exact Or.inr ⟨a, (of_mem_constrained ha).1, hdiffer, rfl⟩

/-- **When a reported conflict is a collision.** A refused list is reported as a conflict. If two
templates are named, they stand at different places of the list, and they collide exactly if no
difference between them is overlooked. If only one is named, it is one of the list, and two templates of
the list collide exactly if there are two, both with constraints or both without, between which no
difference is overlooked. -/
theorem conflict_iff_collide {dup : Bool} {ts : List Template} (hts : ∀ t ∈ ts, t.Compiled)
    {e : DispatchError} (h : checkGroup dup ts = .error e) :
    ∃ first second reason, e = .conflict first second reason
      ∧ (∀ text, second = some text → ∃ (i j : Nat) (a b : Template), i ≠ j ∧ ts[i]? = some a
          ∧ ts[j]? = some b ∧ a.text = first ∧ b.text = text
          ∧ (a.Collide b ↔ ¬ Overlooked ts a b))
      ∧ (second = none → (∃ a ∈ ts, a.text = first)
          ∧ ((∃ (i j : Nat) (a b : Template), i ≠ j ∧ ts[i]? = some a ∧ ts[j]? = some b
              ∧ a.Collide b)
            ↔ ∃ (i j : Nat) (a b : Template), i ≠ j ∧ ts[i]? = some a ∧ ts[j]? = some b
              ∧ a.isPlain = b.isPlain ∧ ¬ Overlooked ts a b)) := by
  have hs : ∀ t ∈ ts, t.Sound := fun t ht => (hts t ht).sound
  have hcollide : ∀ {a b : Template}, a ∈ ts → b ∈ ts → ¬ Differ (constrained ts) a b
      → (a.Collide b ↔ a.isPlain = b.isPlain ∧ ¬ Overlooked ts a b) := by
    intro a b ha hb hdiffer
    rw [collide_iff (hs a ha) (hs b hb), disagree_iff_overlooked (fun _ => of_mem_constrained) hdiffer]
  have hfault : groupFault? dup ts = some e := by
    unfold checkGroup at h
    cases hfault : groupFault? dup ts with
    | none => rw [hfault] at h; cases h
    | some e' => rw [hfault] at h; cases h; rfl
  rcases of_groupFault?_eq_some hs hfault with
    ⟨a, b, reason, hsubperm, hplain, hdiffer, rfl⟩ | ⟨a, ha, hdiffer, rfl⟩
  · obtain ⟨i, j, hij, hi, hj⟩ := exists_places_of_subperm hsubperm
    refine ⟨a.text, some b.text, reason, rfl, fun text htext => ?_, fun hnone => by cases hnone⟩
    refine ⟨i, j, a, b, hij, hi, hj, rfl, Option.some.inj htext, ?_⟩
    rw [hcollide (List.mem_of_getElem? hi) (List.mem_of_getElem? hj) hdiffer]
    exact and_iff_right hplain
  · refine ⟨a.text, none, .noCommonKey, rfl, (fun text htext => by cases htext), fun _ => ?_⟩
    refine ⟨⟨a, ha, rfl⟩, ?_⟩
    -- no two templates differ at a common key, so it is one condition on both sides
    refine exists_congr (fun i => exists_congr (fun j => exists_congr (fun b => exists_congr (fun c =>
      and_congr_right (fun _ => and_congr_right (fun hi => and_congr_right (fun hj => ?_)))))))
    exact hcollide (List.mem_of_getElem? hi) (List.mem_of_getElem? hj) (hdiffer b c)

/-- Constrained templates that come sorted are looked at in the order given. -/
theorem checkGroup_eq_error_of_sorted {dup : Bool} {ts : List Template} {e : DispatchError}
    (hsorted : (ts.filter fun t => !t.isPlain).Pairwise fun a b => a.queries.length ≤ b.queries.length)
    (h : unsortedFault? dup ts = some e) : checkGroup dup ts = .error e := by
  have hconstrained : constrained ts = ts.filter fun t => !t.isPlain :=
    List.mergeSort_of_pairwise (hsorted.imp (fun hab => decide_eq_true hab))
  have hfault : groupFault? dup ts = some e := by
    unfold groupFault?
    rw [hconstrained]
    exact h
  unfold checkGroup
  rw [hfault]

/-- Two templates fix one value and differ in what they capture. The third one fixes the same key, so
nothing is overlooked, and the report is a collision. -/
theorem conflict_iff_collide_items :
    let ts : List Template := [⟨"/items?id=2", [.literal "items"], [("id", .literal "2")]⟩,
      ⟨"/items?id=1", [.literal "items"], [("id", .literal "1")]⟩,
      ⟨"/Items?ID=1&v=\x7bv\x7d", [.literal "Items"], [("ID", .literal "1"), ("v", .capture "v")]⟩]
    (∀ t ∈ ts, t.Compiled)
      ∧ checkGroup false ts
        = .error (.conflict "/items?id=1" (some "/Items?ID=1&v=\x7bv\x7d") .sameValues)
      ∧ ∃ (i j : Nat) (a b : Template), i ≠ j ∧ ts[i]? = some a ∧ ts[j]? = some b
        ∧ a.text = "/items?id=1" ∧ b.text = "/Items?ID=1&v=\x7bv\x7d" ∧ a.Collide b := by
  intro ts
  have hcompile : ∀ t ∈ ts, compile t.text = .ok t := by decide +kernel
  have hts : ∀ t ∈ ts, t.Compiled := fun t ht => ⟨t.text, hcompile t ht⟩
  have hcheck : checkGroup false ts
      = .error (.conflict "/items?id=1" (some "/Items?ID=1&v=\x7bv\x7d") .sameValues) :=
    checkGroup_eq_error_of_sorted (by decide) (by decide +kernel)
  refine ⟨hts, hcheck, ?_⟩
  obtain ⟨first, second, reason, he, hnamed, -⟩ := conflict_iff_collide hts hcheck
  cases he
  obtain ⟨i, j, a, b, hij, hi, hj, ha, hb, hiff⟩ := hnamed _ rfl
  refine ⟨i, j, a, b, hij, hi, hj, ha, hb, hiff.2 ?_⟩
  have hnone : ∀ a ∈ ts, ∀ b ∈ ts, a.text = "/items?id=1" → b.text = "/Items?ID=1&v=\x7bv\x7d"
      → ¬ Overlooked ts a b := by
    decide +kernel
  exact hnone a (List.mem_of_getElem? hi) b (List.mem_of_getElem? hj) ha hb

/-- **A conflict can be reported where nothing collides.** Two templates that disagree at a key are
reported when a third one leaves that key open; and three templates, any two of which disagree at a key
of their own, are reported for having no key in common. -/
theorem conflict_without_collision :
    let named : List Template := [⟨"/a?k=2", [.literal "a"], [("k", .literal "2")]⟩,
      ⟨"/a?k=1&x=1", [.literal "a"], [("k", .literal "1"), ("x", .literal "1")]⟩,
      ⟨"/a?k=1&x=2", [.literal "a"], [("k", .literal "1"), ("x", .literal "2")]⟩]
    let unnamed : List Template :=
      [⟨"/a?x=1&y=1", [.literal "a"], [("x", .literal "1"), ("y", .literal "1")]⟩,
      ⟨"/a?x=2&z=1", [.literal "a"], [("x", .literal "2"), ("z", .literal "1")]⟩,
      ⟨"/a?y=2&z=2", [.literal "a"], [("y", .literal "2"), ("z", .literal "2")]⟩]
    (∀ t ∈ named ++ unnamed, compile t.text = .ok t)
      ∧ (∀ a ∈ named ++ unnamed, ∀ b ∈ named ++ unnamed, a.LooksLike b)
      ∧ (∀ dup, checkGroup dup named
          = .error (.conflict "/a?k=1&x=1" (some "/a?k=1&x=2") .sameValues))
      ∧ (∀ dup, checkGroup dup unnamed = .error (.conflict "/a?x=1&y=1" none .noCommonKey))
      ∧ (named.Pairwise fun a b => ¬ a.Collide b)
      ∧ unnamed.Pairwise fun a b => ¬ a.Collide b := by
  intro named unnamed
  have hcompile : ∀ t ∈ named ++ unnamed, compile t.text = .ok t := by decide +kernel
  have hsound : ∀ t ∈ named ++ unnamed, t.Sound := fun t ht => (compile_sound (hcompile t ht)).1
  have hsegments : ∀ t ∈ named ++ unnamed, t.segments = [.literal "a"] := by decide
  have happart : ∀ {ts : List Template}, ts ⊆ named ++ unnamed
      → ts.Pairwise (fun a b => ∃ key ∈ ["k", "x", "y", "z"], DisagreeAt key a b)
      → ts.Pairwise fun a b => ¬ a.Collide b := by
    intro ts hts hpairwise
    refine hpairwise.imp_of_mem (fun {a b} ha hb hab hcollide => ?_)
    obtain ⟨key, -, hkey⟩ := hab
    exact ((collide_iff (hsound a (hts ha)) (hsound b (hts hb))).1 hcollide).2 ⟨key, hkey⟩
  refine ⟨hcompile, fun a ha b hb => ?_, fun dup => ?_, fun dup => ?_,
    happart (List.subset_append_left _ _) (by decide +kernel),
    happart (List.subset_append_right _ _) (by decide +kernel)⟩
  · show List.Forall₂ _ _ _
    rw [hsegments a ha, hsegments b hb]
    exact .cons rfl .nil
  · cases dup <;> exact checkGroup_eq_error_of_sorted (by decide) (by decide +kernel)
  · cases dup <;> exact checkGroup_eq_error_of_sorted (by decide) (by decide +kernel)

end Template

end Switchboard
