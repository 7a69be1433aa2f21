import Switchboard.Proofs.Constraints

/-!
# When templates can stand side by side

The check of templates that compete for the same paths sorts, intersects keys and compares texts, and
stops at the first fault. What it decides has a description without any of that: it lets templates
stand side by side exactly when they are **admissible** (`Template.checkGroup_eq_ok_iff`). At most
one is without constraints, unless duplicates are allowed; and the others all ask the same, where
that is allowed, or have a key that all of them fix and differ, two by two, at such a key.

From the description follow the three facts that the check is used for. It does not depend on the
order of the templates; what stands side by side still does when some of it is taken away; and two
admissible templates are **apart** (`Template.Admissible.apart`): a query that both match makes them
ask the same, and only where duplicates are allowed. Nothing is said here of two templates without
constraints when duplicates are allowed: the check asks nothing of them.
-/

namespace Switchboard.Template

/-- What holds of any two elements of a list, either way round, holds of any two in every order of
the list. -/
theorem pairwise_of_perm {α : Type} {R : α → α → Prop} {l l' : List α} (hp : l.Perm l')
    (hR : ∀ a ∈ l, ∀ b ∈ l, R a b → R b a) (h : l.Pairwise R) : l'.Pairwise R := by
  have hmem : l.Pairwise fun a b => a ∈ l ∧ b ∈ l ∧ R a b :=
    h.imp_of_mem (fun ha hb hab => ⟨ha, hb, hab⟩)
  refine ((hp.pairwise_iff ?_).1 hmem).imp (fun hab => hab.2.2)
  exact fun hab => ⟨hab.2.1, hab.1, hR _ hab.1 _ hab.2.1 hab.2.2⟩

/-! ## Keys that all templates fix -/

/-- All templates fix the value of a key. -/
def Common (ts : List Template) (key : String) : Prop :=
  ∀ t ∈ ts, t.fixes key

theorem Common.mono {ts us : List Template} {key : String} (h : Common ts key) (hus : us ⊆ ts) :
    Common us key :=
  fun t ht => h t (hus ht)

/-- Whether a key is fixed does not depend on its spelling. -/
theorem fixes_upper (t : Template) (key : String) : t.fixes (Ascii.upper key) = t.fixes key := by
  unfold fixes
  rw [query?_congr (Ascii.same_upper key)]

theorem fixed?_upper (t : Template) (key : String) : t.fixed? (Ascii.upper key) = t.fixed? key := by
  unfold fixed?
  rw [query?_congr (Ascii.same_upper key)]

theorem common_upper {ts : List Template} {key : String} :
    Common ts (Ascii.upper key) ↔ Common ts key := by
  unfold Common
  simp only [fixes_upper]

/-- A key that a template fixes is among its fixed keys, in upper case. -/
theorem mem_fixedKeys {t : Template} {key : String} (h : t.fixes key) :
    Ascii.upper key ∈ t.fixedKeys := by
  obtain ⟨v, hv, hfixed⟩ := (Option.any_eq_true _ _).1 h
  obtain ⟨q, hq, hkey, rfl⟩ := mem_of_query? hv
  exact List.mem_map.2 ⟨q, List.mem_filter.2 ⟨hq, hfixed⟩, hkey⟩

/-- What is found as common is common. -/
theorem common_of_mem_commonKeys {ts : List Template} {key : String} (h : key ∈ commonKeys ts) :
    Common ts key := by
  cases ts with
  | nil => cases h
  | cons t ts => exact List.all_eq_true.1 (List.mem_filter.1 h).2

/-- What is common is found, in upper case. -/
theorem mem_commonKeys_of_common {t : Template} {ts : List Template} {key : String}
    (h : Common (t :: ts) key) : Ascii.upper key ∈ commonKeys (t :: ts) := by
  refine List.mem_filter.2 ⟨mem_fixedKeys (h t List.mem_cons_self), ?_⟩
  exact List.all_eq_true.2 (common_upper.2 h)

/-- There are common keys to be found when there is one. -/
theorem commonKeys_isEmpty {t : Template} {ts : List Template} :
    (commonKeys (t :: ts)).isEmpty = false ↔ ∃ key, Common (t :: ts) key := by
  rw [List.isEmpty_eq_false_iff_exists_mem]
  constructor
  · rintro ⟨key, hkey⟩
    exact ⟨key, common_of_mem_commonKeys hkey⟩
  · rintro ⟨key, hkey⟩
    exact ⟨_, mem_commonKeys_of_common hkey⟩

/-! ## Fixed texts -/

/-- Where two sound templates fix a value, their texts are equal when the values are: an empty value
has no text, and no text is empty. -/
theorem fixedText?_eq_iff {a b : Template} {key : String} (ha : a.Sound) (hb : b.Sound)
    (hak : a.fixes key) (hbk : b.fixes key) :
    a.fixedText? key = b.fixedText? key ↔ a.fixed? key = b.fixed? key := by
  obtain ⟨v, hv, hfixed⟩ := (Option.any_eq_true _ _).1 hak
  obtain ⟨w, hw, hfixed'⟩ := (Option.any_eq_true _ _).1 hbk
  have hv' := ha.filled_of_query? hv
  have hw' := hb.filled_of_query? hw
  unfold fixedText? fixed?
  rw [hv, hw]
  cases v with
  | capture name => cases hfixed
  | literal text =>
    cases w with
    | capture name => cases hfixed'
    | literal text' => exact Iff.rfl
    | empty =>
      refine ⟨(nomatch ·), fun h => absurd ?_ hv'⟩
      exact congrArg QueryValue.literal (Option.some.inj h)
  | empty =>
    cases w with
    | capture name => cases hfixed'
    | literal text' =>
      refine ⟨(nomatch ·), fun h => absurd ?_ hw'⟩
      exact congrArg QueryValue.literal (Option.some.inj h).symm
    | empty => exact ⟨fun _ => rfl, fun _ => rfl⟩

/-- Two templates **differ** if at a key that all of the templates fix they fix different values. -/
def Differ (ts : List Template) (a b : Template) : Prop :=
  ∃ key, Common ts key ∧ a.fixed? key ≠ b.fixed? key

theorem Differ.symm {ts : List Template} {a b : Template} (h : Differ ts a b) : Differ ts b a := by
  obtain ⟨key, hkey, hne⟩ := h
  exact ⟨key, hkey, hne.symm⟩

theorem Differ.mono {ts us : List Template} {a b : Template} (h : Differ ts a b) (hus : us ⊆ ts) :
    Differ us a b := by
  obtain ⟨key, hkey, hne⟩ := h
  exact ⟨key, hkey.mono hus, hne⟩

/-- Templates that differ do not agree on the common keys. -/
theorem agreeOn_commonKeys {ts : List Template} (hs : ∀ t ∈ ts, t.Sound) {a b : Template}
    (ha : a ∈ ts) (hb : b ∈ ts) : agreeOn (commonKeys ts) a b = false ↔ Differ ts a b := by
  unfold agreeOn
  rw [List.all_eq_false]
  constructor
  · rintro ⟨key, hkey, hne⟩
    have hcommon := common_of_mem_commonKeys hkey
    refine ⟨key, hcommon, fun heq => hne (beq_iff_eq.2 ?_)⟩
    exact (fixedText?_eq_iff (hs a ha) (hs b hb) (hcommon a ha) (hcommon b hb)).2 heq
  · rintro ⟨key, hcommon, hne⟩
    obtain ⟨t, ts', rfl⟩ := List.exists_cons_of_ne_nil (List.ne_nil_of_mem ha)
    refine ⟨Ascii.upper key, mem_commonKeys_of_common hcommon, fun heq => hne ?_⟩
    have hupper := common_upper.2 hcommon
    rw [← fixed?_upper a, ← fixed?_upper b]
    exact (fixedText?_eq_iff (hs a ha) (hs b hb) (hupper a ha) (hupper b hb)).1 (beq_iff_eq.1 heq)

/-! ## Constrained templates -/

/-- Two templates do not clash when they disagree, or ask the same where that is allowed. -/
theorem clash?_eq_none_iff {dup : Bool} {keys : List String} {a b : Template} :
    clash? dup keys a b = none ↔ agreeOn keys a b = false ∨ (dup ∧ a.isEquivalent b) := by
  unfold clash?
  cases agreeOn keys a b <;> cases a.isEquivalent b <;> cases dup <;> simp

/-- There is no first clash when no two templates clash. -/
theorem firstClash?_eq_none_iff {dup : Bool} {keys : List String} {ts : List Template} :
    firstClash? dup keys ts = none ↔ ts.Pairwise fun a b => clash? dup keys a b = none := by
  induction ts with
  | nil => exact ⟨fun _ => List.Pairwise.nil, fun _ => rfl⟩
  | cons t ts ih =>
    rw [firstClash?, Option.or_eq_none_iff, List.findSome?_eq_none_iff, ih, List.pairwise_cons]

/-- Sound templates that ask the same one after another ask the same two by two. -/
theorem allEquivalent_iff {ts : List Template} (hs : ∀ t ∈ ts, t.Sound) :
    allEquivalent ts ↔ ts.Pairwise fun a b => a.isEquivalent b := by
  induction ts with
  | nil => exact ⟨fun _ => List.Pairwise.nil, fun _ => rfl⟩
  | cons a ts ih =>
    cases ts with
    | nil => exact ⟨fun _ => List.pairwise_singleton _ _, fun _ => rfl⟩
    | cons b ts =>
      have ih := ih (fun t ht => hs t (List.mem_cons_of_mem a ht))
      rw [allEquivalent, Bool.and_eq_true, ih, List.pairwise_cons (l := b :: ts)]
      constructor
      · rintro ⟨hab, htail⟩
        refine ⟨fun c hc => ?_, htail⟩
        rcases List.mem_cons.1 hc with rfl | hc'
        · exact hab
        · exact isEquivalent_trans (hs a List.mem_cons_self)
            (hs b (List.mem_cons_of_mem a List.mem_cons_self)) (hs c (List.mem_cons_of_mem a hc))
            hab ((List.pairwise_cons.1 htail).1 c hc')
      · rintro ⟨hhead, htail⟩
        exact ⟨hhead b List.mem_cons_self, htail⟩

/-- **Separated templates**: at most one, or all ask the same and that is allowed, or they have a
common key and, two by two, differ at one or ask the same where that is allowed. -/
def Separated (dup : Bool) (ts : List Template) : Prop :=
  ts.length ≤ 1
    ∨ (dup ∧ ts.Pairwise fun a b => a.isEquivalent b)
    ∨ ((∃ key, Common ts key)
        ∧ ts.Pairwise fun a b => Differ ts a b ∨ (dup ∧ a.isEquivalent b))

/-- The check finds no fault with constrained templates that are separated. -/
theorem constrainedFault?_eq_none_iff {dup : Bool} {ts : List Template}
    (hs : ∀ t ∈ ts, t.Sound) : constrainedFault? dup ts = none ↔ Separated dup ts := by
  rcases ts with _ | ⟨a, _ | ⟨b, ts⟩⟩
  · exact ⟨fun _ => Or.inl (Nat.zero_le 1), fun _ => rfl⟩
  · exact ⟨fun _ => Or.inl (Nat.le_refl 1), fun _ => rfl⟩
  have hlong : ¬ (a :: b :: ts).length ≤ 1 := by simp
  have hclash : firstClash? dup (commonKeys (a :: b :: ts)) (a :: b :: ts) = none
      ↔ (a :: b :: ts).Pairwise fun c d => Differ (a :: b :: ts) c d ∨ (dup ∧ c.isEquivalent d) := by
    rw [firstClash?_eq_none_iff]
    refine List.Pairwise.iff_of_mem (fun {c d} hc hd => ?_)
    rw [clash?_eq_none_iff, agreeOn_commonKeys hs hc hd]
  unfold constrainedFault? Separated
  dsimp only
  cases hempty : (commonKeys (a :: b :: ts)).isEmpty with
  | true =>
    have hnone : ¬ ∃ key, Common (a :: b :: ts) key := by
      rw [← commonKeys_isEmpty, hempty]
      exact Bool.noConfusion
    rw [if_pos rfl, ← allEquivalent_iff hs]
    cases dup <;> cases allEquivalent (a :: b :: ts) <;> simp [hnone]
  | false =>
    have hsome : ∃ key, Common (a :: b :: ts) key := commonKeys_isEmpty.1 hempty
    rw [if_neg Bool.false_ne_true, hclash]
    constructor
    · exact fun h => Or.inr (Or.inr ⟨hsome, h⟩)
    · rintro (h | ⟨hdup, h⟩ | ⟨-, h⟩)
      · exact absurd h hlong
      · exact h.imp (fun he => Or.inr ⟨hdup, he⟩)
      · exact h

/-- What is left of separated templates is separated. -/
theorem Separated.sublist {dup : Bool} {ts us : List Template} (h : Separated dup ts)
    (hus : us.Sublist ts) : Separated dup us := by
  rcases h with h | ⟨hdup, h⟩ | ⟨⟨key, hkey⟩, h⟩
  · exact Or.inl (Nat.le_trans hus.length_le h)
  · exact Or.inr (Or.inl ⟨hdup, h.sublist hus⟩)
  · refine Or.inr (Or.inr ⟨⟨key, hkey.mono hus.subset⟩, (h.sublist hus).imp ?_⟩)
    exact fun hab => hab.imp_left (fun hd => hd.mono hus.subset)

/-- Being separated does not depend on the order. -/
theorem Separated.perm {dup : Bool} {ts us : List Template} (hs : ∀ t ∈ ts, t.Sound)
    (h : Separated dup ts) (hp : ts.Perm us) : Separated dup us := by
  have hsub : us ⊆ ts := hp.symm.subset
  have hequivalent : ∀ a ∈ ts, ∀ b ∈ ts, a.isEquivalent b → b.isEquivalent a :=
    fun a ha b hb => isEquivalent_symm (hs a ha) (hs b hb)
  rcases h with h | ⟨hdup, h⟩ | ⟨⟨key, hkey⟩, h⟩
  · exact Or.inl (hp.length_eq ▸ h)
  · exact Or.inr (Or.inl ⟨hdup, pairwise_of_perm hp hequivalent h⟩)
  · refine Or.inr (Or.inr ⟨⟨key, hkey.mono hsub⟩, ?_⟩)
    refine (pairwise_of_perm hp ?_ h).imp (fun hab => hab.imp_left (fun hd => hd.mono hsub))
    rintro a ha b hb (hd | ⟨hdup, he⟩)
    · exact Or.inl hd.symm
    · exact Or.inr ⟨hdup, hequivalent a ha b hb he⟩

/-! ## The check -/

/-- Without duplicates, at most one template is plain. -/
theorem plainFault?_eq_none_iff {dup : Bool} {ts : List Template} :
    plainFault? dup ts = none ↔ (dup = false → ts.length ≤ 1) := by
  rcases ts with _ | ⟨a, _ | ⟨b, ts⟩⟩ <;> cases dup <;> simp [plainFault?]

/-- **Admissible templates**: at most one is without constraints, unless duplicates are allowed, and
the constrained ones are separated. -/
def Admissible (dup : Bool) (ts : List Template) : Prop :=
  (dup = false → (ts.filter isPlain).length ≤ 1) ∧ Separated dup (ts.filter fun t => !t.isPlain)

/-- What is wrong with templates side by side, with the constrained ones in the order given. -/
def unsortedFault? (dup : Bool) (ts : List Template) : Option DispatchError :=
  (plainFault? dup (ts.filter isPlain)).or (constrainedFault? dup (ts.filter fun t => !t.isPlain))

/-- **What is admissible shows without sorting**: the order in which constrained templates are looked
at decides which fault is found, not whether there is one. -/
theorem unsortedFault?_eq_none_iff {dup : Bool} {ts : List Template} (hs : ∀ t ∈ ts, t.Sound) :
    unsortedFault? dup ts = none ↔ Admissible dup ts := by
  unfold unsortedFault? Admissible
  rw [Option.or_eq_none_iff, plainFault?_eq_none_iff,
    constrainedFault?_eq_none_iff (fun t ht => hs t (List.mem_filter.1 ht).1)]

/-- The constrained templates, sorted, are the constrained templates. -/
theorem constrained_perm (ts : List Template) :
    (constrained ts).Perm (ts.filter fun t => !t.isPlain) :=
  List.mergeSort_perm _ _

/-- **The check passes exactly what is admissible.** -/
theorem checkGroup_eq_ok_iff {dup : Bool} {ts : List Template} (hs : ∀ t ∈ ts, t.Sound) :
    checkGroup dup ts = .ok () ↔ Admissible dup ts := by
  have hfilter : ∀ t ∈ ts.filter (fun t => !t.isPlain), t.Sound :=
    fun t ht => hs t (List.mem_filter.1 ht).1
  have hsorted : ∀ t ∈ constrained ts, t.Sound :=
    fun t ht => hfilter t ((constrained_perm ts).subset ht)
  have hfault : groupFault? dup ts = none ↔ Admissible dup ts := by
    unfold groupFault? Admissible
    rw [Option.or_eq_none_iff, plainFault?_eq_none_iff, constrainedFault?_eq_none_iff hsorted]
    refine and_congr_right (fun _ => ⟨fun h => ?_, fun h => ?_⟩)
    · exact h.perm hsorted (constrained_perm ts)
    · exact h.perm hfilter (constrained_perm ts).symm
  rw [← hfault]
  unfold checkGroup
  cases groupFault? dup ts <;> simp

/-- **What is left of admissible templates is admissible.** -/
theorem Admissible.sublist {dup : Bool} {ts us : List Template} (h : Admissible dup ts)
    (hus : us.Sublist ts) : Admissible dup us :=
  ⟨fun hdup => Nat.le_trans (hus.filter _).length_le (h.1 hdup), h.2.sublist (hus.filter _)⟩

/-- **Being admissible does not depend on the order.** -/
theorem Admissible.perm {dup : Bool} {ts us : List Template} (hs : ∀ t ∈ ts, t.Sound)
    (h : Admissible dup ts) (hp : ts.Perm us) : Admissible dup us := by
  refine ⟨fun hdup => (hp.filter _).length_eq ▸ h.1 hdup, h.2.perm ?_ (hp.filter _)⟩
  exact fun t ht => hs t (List.mem_filter.1 ht).1

/-! ## Two templates -/

/-- **Templates that are apart**: they are not both without constraints, and no query matches both;
where duplicates are allowed, the first may be, and the second if they ask the same. -/
def Apart (dup : Bool) (a b : Template) : Prop :=
  (dup = false → ¬ (a.isPlain ∧ b.isPlain))
    ∧ ∀ query, a.matchesQuery query false → b.matchesQuery query false
        → dup ∧ a.isEquivalent b

theorem Apart.symm {dup : Bool} {a b : Template} (ha : a.Sound) (hb : b.Sound)
    (h : Apart dup a b) : Apart dup b a := by
  refine ⟨fun hdup hplain => h.1 hdup hplain.symm, fun query hqb hqa => ?_⟩
  obtain ⟨hdup, he⟩ := h.2 query hqa hqb
  exact ⟨hdup, isEquivalent_symm ha hb he⟩

/-- No query matches two templates that differ. -/
theorem Differ.not_matchesQuery {ts : List Template} {a b : Template} (h : Differ ts a b)
    (ha : a ∈ ts) (hb : b ∈ ts) {query : Query} (hqa : a.matchesQuery query false) :
    ¬ b.matchesQuery query false := by
  intro hqb
  obtain ⟨key, hcommon, hne⟩ := h
  have hak := hcommon a ha
  have hbk := hcommon b hb
  rw [← isSome_fixed?] at hak hbk
  obtain ⟨text, htext⟩ := Option.isSome_iff_exists.1 hak
  obtain ⟨text', htext'⟩ := Option.isSome_iff_exists.1 hbk
  have hvalue := value?_of_matchesQuery hqa htext
  rw [value?_of_matchesQuery hqb htext'] at hvalue
  rw [htext, htext'] at hne
  exact hne hvalue.symm

/-- What a query matches has constraints. -/
theorem isPlain_of_matchesQuery {t : Template} {query : Query} {strict : Bool}
    (h : t.matchesQuery query strict) : t.isPlain = false := by
  have hplain := (Bool.and_eq_true_iff.1 h).1
  rwa [Bool.not_eq_true'] at hplain

/-- **Two admissible templates are apart.** -/
theorem Admissible.apart {dup : Bool} {a b : Template} (h : Admissible dup [a, b]) :
    Apart dup a b := by
  refine ⟨fun hdup hplain => ?_, fun query hqa hqb => ?_⟩
  · have hone := h.1 hdup
    rw [List.filter_cons_of_pos hplain.1, List.filter_cons_of_pos hplain.2] at hone
    exact absurd hone (by simp)
  · have hseparated := h.2
    rw [List.filter_cons_of_pos (by rw [isPlain_of_matchesQuery hqa]; rfl),
      List.filter_cons_of_pos (by rw [isPlain_of_matchesQuery hqb]; rfl)] at hseparated
    rcases hseparated with h | ⟨hdup, h⟩ | ⟨-, h⟩
    · exact absurd h (by simp)
    · exact ⟨hdup, List.rel_of_pairwise_cons h List.mem_cons_self⟩
    · rcases List.rel_of_pairwise_cons h List.mem_cons_self with hd | he
      · exact absurd hqb (hd.not_matchesQuery List.mem_cons_self
          (List.mem_cons_of_mem a List.mem_cons_self) hqa)
      · exact he

end Switchboard.Template
