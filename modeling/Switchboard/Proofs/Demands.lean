import Switchboard.Proofs.Constraints

/-!
# What a query can show

A template reads a query at the keys it constrains, and at each of them it sees a value or none. What it
sees there is not restricted by anything but the spelling of keys: any choice of values for finitely
many keys, the same for all spellings of a key, is what some query shows (`Query.showing`,
`Query.value?_showing`). So a statement about all queries is a statement about all choices.

It follows that nothing of a template's query is lost on the queries it matches. Templates that match
the same queries especially interestingly have one demand at every key
(`Template.demand?_eq_of_matchesQuery`): a query made for the one template alone, with its fixed texts
and a filler at its captured keys, is matched by the other. So each key of the other is there, and where
the other fixes a text, the first one fixes it too, as the filler can be any text. Demands are all that
equivalence compares beside the shape, and so it is exactly that: one shape, and the same queries
(`Template.isEquivalent_iff_matchesQuery`).

The converse inclusion would not do for interesting matches: `?a=1` and `?a=1&b={x}` match the same queries
interestingly, and ask different things.
-/

namespace Switchboard

/-! ## Queries made to order -/

namespace Query

/-- **A query that shows chosen values**: at each of the keys the value that is chosen for it, if there
is one. -/
def showing (keys : List String) (shown : String → Option String) : Query :=
  keys.filterMap fun key => (shown key).map (key, ·)

theorem mem_showing {keys : List String} {shown : String → Option String} {p : String × String} :
    p ∈ showing keys shown ↔ p.1 ∈ keys ∧ shown p.1 = some p.2 := by
  obtain ⟨key, value⟩ := p
  unfold showing
  rw [List.mem_filterMap]
  constructor
  · rintro ⟨k, hk, hshown⟩
    obtain ⟨v, hv, hpair⟩ := Option.map_eq_some_iff.1 hshown
    cases hpair
    exact ⟨hk, hv⟩
  · rintro ⟨hkey, hshown⟩
    refine ⟨key, hkey, ?_⟩
    rw [hshown]
    rfl

/-- **What is chosen for a key is shown**, if the choice does not depend on how the key is spelled. -/
theorem value?_showing {keys : List String} {shown : String → Option String}
    (hcase : ∀ {j k}, Ascii.Same j k → shown j = shown k) {key : String} (hkey : key ∈ keys) :
    (showing keys shown).value? key = shown key := by
  unfold value?
  cases hfound : (showing keys shown).find? fun p => Ascii.Same p.1 key with
  | none =>
    -- a value that is chosen for the key would be found
    cases hshown : shown key with
    | none => rfl
    | some value =>
      have hmem : (key, value) ∈ showing keys shown := mem_showing.2 ⟨hkey, hshown⟩
      have hnot := List.find?_eq_none.1 hfound _ hmem
      exact absurd (decide_eq_true (Ascii.same_refl key)) hnot
  | some p =>
    obtain ⟨hmem, hsame⟩ := Ascii.of_find?_eq_some hfound
    rw [← hcase hsame, (mem_showing.1 hmem).2]
    rfl

end Query

/-! ## What a constraint accepts -/

namespace QueryValue

/-- **What a constraint accepts at its key**: the text that it fixes; or else any value, and none too
unless `strict` is asked for. -/
def Accepts (strict : Bool) (v : QueryValue) (value : Option String) : Prop :=
  match v.fixed? with
  | some text => value = some text
  | none => strict = true → value.isSome = true

theorem accepts_of_fixed? {v : QueryValue} {text : String} (h : v.fixed? = some text)
    {strict : Bool} {value : Option String} : v.Accepts strict value ↔ value = some text := by
  unfold Accepts
  rw [h]

theorem accepts_of_not_fixed {v : QueryValue} (h : v.fixed? = none) {strict : Bool}
    {value : Option String} : v.Accepts strict value ↔ (strict = true → value.isSome = true) := by
  unfold Accepts
  rw [h]

/-- What is accepted does not depend on the name that is bound. -/
theorem accepts_demand {v : QueryValue} {strict : Bool} {value : Option String} :
    v.demand.Accepts strict value ↔ v.Accepts strict value := by
  cases v <;> exact Iff.rfl

/-- A strict constraint accepts values only. -/
theorem Accepts.isSome {v : QueryValue} {value : Option String} (h : v.Accepts true value) :
    value.isSome = true := by
  cases hfixed : v.fixed? with
  | some text =>
    rw [(accepts_of_fixed? hfixed).1 h]
    rfl
  | none => exact (accepts_of_not_fixed hfixed).1 h rfl

/-- Constraints that fix the same have one demand: no fixed text is empty, so it is not taken for the
empty value. -/
theorem demand_eq_of_fixed? {v w : QueryValue} (hv : v ≠ .literal "") (hw : w ≠ .literal "")
    (h : v.fixed? = w.fixed?) : v.demand = w.demand := by
  cases v with
  | capture name =>
    cases w with
    | capture name' => rfl
    | literal text => cases h
    | empty => cases h
  | literal text =>
    cases w with
    | capture name => cases h
    | literal text' => exact congrArg literal (Option.some.inj h)
    | empty => exact absurd (congrArg literal (Option.some.inj h)) hv
  | empty =>
    cases w with
    | capture name => cases h
    | literal text => exact absurd (congrArg literal (Option.some.inj h)).symm hw
    | empty => rfl

end QueryValue

namespace Template

theorem answers_iff {query : Query} {strict : Bool} {c : String × QueryValue} :
    answers query strict c ↔ c.2.Accepts strict (query.value? c.1) := by
  unfold answers
  cases hvalue : c.2 with
  | literal text => exact beq_iff_eq
  | empty => exact beq_iff_eq
  | capture name => cases strict <;> simp [QueryValue.Accepts, QueryValue.fixed?]

/-- **A query matches when each constraint accepts what the query shows at its key.** -/
theorem matchesQuery_iff {t : Template} {query : Query} {strict : Bool} :
    t.matchesQuery query strict
      ↔ t.isPlain = false ∧ ∀ c ∈ t.queries, c.2.Accepts strict (query.value? c.1) := by
  unfold matchesQuery
  rw [Bool.and_eq_true, Bool.not_eq_true', List.all_eq_true]
  exact and_congr_right (fun _ => forall₂_congr (fun _ _ => answers_iff))

/-- A template without constraints has no demands. -/
theorem isPlain_iff_demand? {t : Template} : t.isPlain ↔ ∀ key, t.demand? key = none := by
  constructor
  · intro hplain key
    unfold demand? query?
    rw [List.isEmpty_iff.1 hplain]
    rfl
  · intro hnone
    refine List.isEmpty_iff.2 (List.eq_nil_iff_forall_not_mem.2 (fun c hc => ?_))
    -- a constraint would be found by its key
    have hkey : Ascii.upper c.1 ∈ t.keys := List.mem_map.2 ⟨c, hc, rfl⟩
    rw [mem_keys, ← isSome_demand?, hnone] at hkey
    cases hkey

/-- **A sound template is matched by what is shown to its demands**, however they are written. -/
theorem Sound.matchesQuery_iff {t : Template} (ht : t.Sound) {query : Query} {strict : Bool} :
    t.matchesQuery query strict ↔ t.isPlain = false
      ∧ ∀ key v, t.demand? key = some v → v.Accepts strict (query.value? key) := by
  rw [Template.matchesQuery_iff]
  refine and_congr_right (fun _ => ⟨fun h key v hv => ?_, fun h c hc => ?_⟩)
  · obtain ⟨w, hw, rfl⟩ := Option.map_eq_some_iff.1 hv
    obtain ⟨c, hc, hkey, rfl⟩ := mem_of_query? hw
    rw [QueryValue.accepts_demand, ← query.value?_congr hkey]
    exact h c hc
  · exact QueryValue.accepts_demand.1 (h c.1 _ (ht.demand?_of_mem hc))

/-- **Sound templates with the same demands match the same queries**, in the same ways. -/
theorem matchesQuery_eq_of_demand? {a b : Template} (ha : a.Sound) (hb : b.Sound)
    (h : ∀ key, a.demand? key = b.demand? key) :
    a.isPlain = b.isPlain
      ∧ ∀ query strict, a.matchesQuery query strict = b.matchesQuery query strict := by
  have hplain : a.isPlain = b.isPlain := by
    rw [Bool.eq_iff_iff, isPlain_iff_demand?, isPlain_iff_demand?]
    exact forall_congr' (fun key => by rw [h key])
  refine ⟨hplain, fun query strict => ?_⟩
  rw [Bool.eq_iff_iff, ha.matchesQuery_iff, hb.matchesQuery_iff, hplain]
  exact and_congr_right (fun _ => forall₂_congr (fun key v => by rw [h key]))

/-! ## Queries made for a template -/

/-- **What a query made for a template shows at a key**: the text that the template fixes there, or a
filler if it captures the value. -/
def sample? (t : Template) (filler key : String) : Option String :=
  (t.query? key).map fun v => v.fixed?.getD filler

theorem sample?_congr (t : Template) (filler : String) {j k : String} (h : Ascii.Same j k) :
    t.sample? filler j = t.sample? filler k :=
  congrArg (Option.map _) (query?_congr h t)

/-- **A template matches what is made for it**, especially interestingly. -/
theorem Sound.matchesQuery_sample {t : Template} (ht : t.Sound) (hplain : t.isPlain = false)
    (filler : String) {keys : List String} (hkeys : ∀ c ∈ t.queries, c.1 ∈ keys) :
    t.matchesQuery (Query.showing keys (t.sample? filler)) true := by
  refine Template.matchesQuery_iff.2 ⟨hplain, fun c hc => ?_⟩
  rw [Query.value?_showing (t.sample?_congr filler) (hkeys c hc), sample?, ht.query?_of_mem hc,
    Option.map_some]
  cases hfixed : c.2.fixed? with
  | some text => exact (QueryValue.accepts_of_fixed? hfixed).2 rfl
  | none => exact (QueryValue.accepts_of_not_fixed hfixed).2 (fun _ => rfl)

/-- **A template that matches all that another matches asks less**: the other has each of its keys, and
fixes each text that it fixes. The samples of the other show both, for any filler. -/
theorem Sound.query?_of_matchesQuery {a b : Template} (ha : a.Sound) (hplain : a.isPlain = false)
    (h : ∀ query, a.matchesQuery query true → b.matchesQuery query true) {key : String}
    {w : QueryValue} (hw : b.query? key = some w) :
    ∃ v, a.query? key = some v ∧ ∀ text, w.fixed? = some text → v.fixed? = some text := by
  obtain ⟨c, hc, hkey, rfl⟩ := mem_of_query? hw
  have haccepts : ∀ filler, c.2.Accepts true (a.sample? filler key) := by
    intro filler
    have hkeys : ∀ c ∈ a.queries, c.1 ∈ (a.queries ++ b.queries).map Prod.fst :=
      fun c hc => List.mem_map_of_mem (List.mem_append_left _ hc)
    have hb := (Template.matchesQuery_iff.1 (h _ (ha.matchesQuery_sample hplain filler hkeys))).2 c hc
    rwa [Query.value?_showing (a.sample?_congr filler)
      (List.mem_map_of_mem (List.mem_append_right _ hc)), a.sample?_congr filler hkey] at hb
  obtain ⟨v, hv⟩ : ∃ v, a.query? key = some v := by
    have hsome := (haccepts "").isSome
    rw [sample?, Option.isSome_map] at hsome
    exact Option.isSome_iff_exists.1 hsome
  refine ⟨v, hv, fun text htext => ?_⟩
  -- a filler that is not the text cannot be what is shown
  have hshown : v.fixed?.getD (text ++ "+") = text := by
    have hsample := (QueryValue.accepts_of_fixed? htext).1 (haccepts (text ++ "+"))
    rw [sample?, hv, Option.map_some] at hsample
    exact Option.some.inj hsample
  cases hfixed : v.fixed? with
  | some text' =>
    rw [hfixed, Option.getD_some] at hshown
    rw [hshown]
  | none =>
    rw [hfixed, Option.getD_none] at hshown
    have hlength := congrArg String.length hshown
    rw [String.length_append] at hlength
    exact absurd hlength (Nat.succ_ne_self _)

/-- A template without constraints matches no query, so that it has company only in its like. -/
theorem Sound.isPlain_of_matchesQuery_eq {a b : Template} (hb : b.Sound) (ha : a.isPlain)
    (h : ∀ query, a.matchesQuery query true = b.matchesQuery query true) : b.isPlain := by
  by_contra hplain
  have hmatch := hb.matchesQuery_sample (Bool.eq_false_iff.2 hplain) ""
    (fun c hc => List.mem_map_of_mem hc)
  rw [← h] at hmatch
  rw [(Template.matchesQuery_iff.1 hmatch).1] at ha
  cases ha

/-- **Templates that match the same queries have the same demands.** -/
theorem demand?_eq_of_matchesQuery {a b : Template} (ha : a.Sound) (hb : b.Sound)
    (h : ∀ query, a.matchesQuery query true = b.matchesQuery query true) (key : String) :
    a.demand? key = b.demand? key := by
  by_cases hplain : a.isPlain
  · rw [isPlain_iff_demand?.1 hplain,
      isPlain_iff_demand?.1 (hb.isPlain_of_matchesQuery_eq hplain h)]
  have hplain' : ¬ b.isPlain :=
    fun hb' => hplain (ha.isPlain_of_matchesQuery_eq hb' (fun query => (h query).symm))
  have hab : ∀ query, a.matchesQuery query true → b.matchesQuery query true :=
    fun query hq => (h query).symm.trans hq
  have hba : ∀ query, b.matchesQuery query true → a.matchesQuery query true :=
    fun query hq => (h query).trans hq
  rw [Bool.not_eq_true] at hplain hplain'
  unfold demand?
  cases hv : a.query? key with
  | none =>
    cases hw : b.query? key with
    | none => rfl
    | some w =>
      obtain ⟨v, hv', -⟩ := ha.query?_of_matchesQuery hplain hab hw
      rw [hv] at hv'
      cases hv'
  | some v =>
    obtain ⟨w, hw, hvw⟩ := hb.query?_of_matchesQuery hplain' hba hv
    obtain ⟨v', hv', hwv⟩ := ha.query?_of_matchesQuery hplain hab hw
    obtain rfl : v = v' := Option.some.inj (hv.symm.trans hv')
    have hfixed : v.fixed? = w.fixed? := Option.ext (fun text => ⟨hvw text, hwv text⟩)
    rw [hw, Option.map_some, Option.map_some,
      QueryValue.demand_eq_of_fixed? (ha.filled_of_query? hv) (hb.filled_of_query? hw) hfixed]

/-! ## Equivalence -/

/-- **Templates are equivalent exactly when they have one shape and match the same queries** especially
interestingly. Then they match the same queries interestingly too, and are both without constraints or
both not. Being equivalent is reflexive, symmetric and transitive. -/
theorem isEquivalent_iff_matchesQuery {text text' text'' : String} {a b c : Template}
    (ha : compile text = .ok a) (hb : compile text' = .ok b) (hc : compile text'' = .ok c) :
    (a.isEquivalent b ↔ a.shape = b.shape
        ∧ ∀ query, a.matchesQuery query true = b.matchesQuery query true)
      ∧ (a.isEquivalent b → a.isPlain = b.isPlain
        ∧ ∀ query, a.matchesQuery query false = b.matchesQuery query false)
      ∧ a.isEquivalent a
      ∧ (a.isEquivalent b → b.isEquivalent a)
      ∧ (a.isEquivalent b → b.isEquivalent c → a.isEquivalent c) := by
  have ha := (compile_sound ha).1
  have hb := (compile_sound hb).1
  have hc := (compile_sound hc).1
  refine ⟨?_, fun he => ?_, isEquivalent_refl ha, isEquivalent_symm ha hb,
    isEquivalent_trans ha hb hc⟩
  · rw [isEquivalent_iff ha hb]
    refine and_congr_right (fun _ => ⟨fun h query => ?_, demand?_eq_of_matchesQuery ha hb⟩)
    exact (matchesQuery_eq_of_demand? ha hb h).2 query true
  · obtain ⟨hplain, hmatch⟩ := matchesQuery_eq_of_demand? ha hb ((isEquivalent_iff ha hb).1 he).2
    exact ⟨hplain, fun query => hmatch query false⟩

/-- Constraints in another order, with other names and keys in another case: the same queries match.
With another text, a query tells the templates apart. -/
theorem isEquivalent_iff_matchesQuery_items :
    let a : Template := ⟨"/items/\x7bid\x7d?fmt=\x7bf\x7d&v=1",
      [.literal "items", .capture "id"], [("fmt", .capture "f"), ("v", .literal "1")]⟩
    let b : Template := ⟨"/ITEMS/\x7bkey\x7d?V=1&fmt=\x7bg\x7d",
      [.literal "ITEMS", .capture "key"], [("V", .literal "1"), ("fmt", .capture "g")]⟩
    let c : Template := ⟨"/items/\x7bid\x7d?fmt=\x7bf\x7d&v=2",
      [.literal "items", .capture "id"], [("fmt", .capture "f"), ("v", .literal "2")]⟩
    compile a.text = .ok a ∧ compile b.text = .ok b ∧ compile c.text = .ok c
      ∧ (∀ query, a.matchesQuery query true = b.matchesQuery query true)
      ∧ b.isEquivalent a
      ∧ ¬ ∀ query, a.matchesQuery query true = c.matchesQuery query true := by
  intro a b c
  have ha : compile a.text = .ok a := by decide +kernel
  have hb : compile b.text = .ok b := by decide +kernel
  have hc : compile c.text = .ok c := by decide +kernel
  have hab : a.isEquivalent b := by decide +kernel
  have hac : ¬ a.isEquivalent c := by decide +kernel
  have hshape : a.shape = c.shape := by decide +kernel
  obtain ⟨hiff, -, -, hsymm, -⟩ := isEquivalent_iff_matchesQuery ha hb hc
  obtain ⟨hiff', -⟩ := isEquivalent_iff_matchesQuery ha hc hb
  have hsame : ∀ query, a.matchesQuery query true = b.matchesQuery query true := (hiff.1 hab).2
  have hback : b.isEquivalent a := hsymm hab
  refine ⟨ha, hb, hc, hsame, hback, fun h => ?_⟩
  exact hac (hiff'.2 ⟨hshape, h⟩)

end Template

end Switchboard
