import Mathlib.Data.List.Pairwise
import Switchboard.Proofs.PathMatching
import Switchboard.Proofs.TemplateRegistry

/-!
# What an answer binds

The names of a template are collected when it is compiled, to see that none is repeated, and bound when
a request is answered: those of the path by matching it, segment by segment and piece by piece, and
those of the query by going through its constraints. Whoever reads an answer asks it for a name of the
template, in any case, and relies on the two to enumerate the same names.

They do, with one exception that is meant. A captured key need not be in the query, and its name is then
not bound (`Template.boundNames`). So the bound names are among all names, in their order, and no two of
them are the same; every spelling of a name finds its own value; and a name is not found only if the
template does not have it, or has it for a key that is not in the query (`TemplateMatch.Binds`). That
one name is not taken for another needs more than the bound names to be different: it is a name that is
**not** bound that must not find the value of another one, and it is different from these because all
names of the template are (`Template.not_bound_of_not_has`).
-/

namespace Switchboard

/-- **Whether a query has a key**, up to case. -/
def Query.has (query : Query) (key : String) : Bool :=
  query.any fun p => Ascii.Same p.1 key

/-- A key has a value if the query has it. -/
theorem Query.isSome_value? (query : Query) (key : String) :
    (query.value? key).isSome = query.has key := by
  unfold value? has
  rw [Option.isSome_map, List.isSome_find?]

namespace Bindings

/-- Every spelling of a name finds the same. -/
theorem get?_congr {j k : String} (h : Ascii.Same j k) (b : Bindings) : b.get? j = b.get? k := by
  unfold get?
  rw [funext fun p : String × String => Ascii.decide_same_congr h p.1]

/-- A name finds nothing if no bound name is the same. -/
theorem get?_eq_none_iff {b : Bindings} {name : String} :
    b.get? name = none ↔ ∀ n ∈ b.map Prod.fst, ¬ Ascii.Same n name := by
  unfold get?
  rw [Option.map_eq_none_iff, List.find?_eq_none, List.forall_mem_map]
  simp only [decide_eq_true_eq]

end Bindings

/-! ## The names that are bound -/

namespace Template

/-- **The names that a match binds**: those of the path, then those of the captured keys that the query
has. -/
def boundNames (t : Template) (query : Query) : List String :=
  t.pathNames ++ (t.queries.filter fun q => query.has q.1).flatMap fun q => q.2.names

/-- The bound names are among all names, in their order. -/
theorem boundNames_sublist (t : Template) (query : Query) :
    (t.boundNames query).Sublist t.names :=
  (List.Sublist.refl t.pathNames).append (List.filter_sublist.flatMap _)

/-- The query binds the names of the captured keys that it has. -/
theorem map_fst_queryBindings (t : Template) (query : Query) :
    (t.queryBindings query).map Prod.fst
      = (t.queries.filter fun q => query.has q.1).flatMap fun q => q.2.names := by
  unfold queryBindings
  induction t.queries with
  | nil => rfl
  | cons q queries ih =>
    rw [List.flatMap_cons, List.map_append, ih, List.filter_cons, ← query.isSome_value?]
    cases query.value? q.1 with
    | none => simp
    | some value => simp [Function.comp_def]

section Compiled

variable {text : String} {t : Template}

/-- No two of the bound names are the same. -/
theorem pairwise_boundNames (ht : compile text = .ok t) (query : Query) :
    (t.boundNames query).Pairwise fun m n => ¬ Ascii.Same m n :=
  (pairwise_names_of_compile ht).sublist (t.boundNames_sublist query)

/-- **The name of a captured key that the query does not have is none of the bound names**, in any
case. -/
theorem not_bound_of_not_has (ht : compile text = .ok t) {query : Query} {q : String × QueryValue}
    (hq : q ∈ t.queries) (hhas : query.has q.1 = false) {n : String} (hn : n ∈ q.2.names) :
    ∀ m ∈ t.boundNames query, ¬ Ascii.Same m n := by
  intro m hm hsame
  obtain ⟨-, hqueries, hcross⟩ := List.pairwise_append.1 (pairwise_names_of_compile ht)
  rcases List.mem_append.1 hm with hm | hm
  · exact hcross m hm n (List.mem_flatMap.2 ⟨q, hq, hn⟩) hsame
  · obtain ⟨q', hq', hm⟩ := List.mem_flatMap.1 hm
    obtain ⟨hq', hhas'⟩ := List.mem_filter.1 hq'
    -- the two are of different constraints, as the query has the key of one only
    have hne : q' ≠ q := by
      rintro rfl
      rw [hhas] at hhas'
      cases hhas'
    have : Std.Symm fun q q' : String × QueryValue =>
        ∀ m ∈ q.2.names, ∀ n ∈ q'.2.names, ¬ Ascii.Same m n :=
      ⟨fun _ _ h n hn m hm hsame => h m hm n hn hsame.symm⟩
    exact (List.pairwise_flatMap.1 hqueries).2.forall hq' hq hne m hm n hn hsame

end Compiled

end Template

/-! ## What is found by a name -/

/-- **What an answer binds**, as an answer of a template to what is left of a path and to a query. -/
structure TemplateMatch.Binds {P : Type} (answer : TemplateMatch P) (t : Template)
    (rest : List String) (query : Query) : Prop where
  /-- The names of the path are bound, in order, and then those of the captured keys in the query. -/
  names_eq : answer.bindings.map Prod.fst = t.boundNames query
  /-- No two names are the same. -/
  distinct : (answer.bindings.map Prod.fst).Pairwise fun m n => ¬ Ascii.Same m n
  /-- Every spelling of a name finds what the name is bound to. -/
  found : ∀ p ∈ answer.bindings, ∀ name, Ascii.Same p.1 name
    → answer.bindings.get? name = some p.2
  /-- What the names of the path are bound to is what matching the path binds them to, -/
  matched : ∃ b, t.matchPath rest = some b ∧ b <+: answer.bindings
  /-- and restores the path from the template. -/
  restored : Segment.Restored answer.bindings.get? t.segments rest
  /-- Every spelling of the name of a captured key finds the value of the key, if it has one. -/
  valued : ∀ q ∈ t.queries, ∀ n ∈ q.2.names, ∀ name, Ascii.Same n name
    → answer.bindings.get? name = query.value? q.1
  /-- A name finds nothing only if the template does not have it, or has it for a key that is not in the
  query. -/
  missing : ∀ name, answer.bindings.get? name = none
    ↔ (∀ n ∈ t.names, ¬ Ascii.Same n name)
      ∨ ∃ q ∈ t.queries, query.has q.1 = false ∧ ∃ n ∈ q.2.names, Ascii.Same n name

namespace Template

variable {text : String} {t : Template}

/-- The names that are bound to what a path and a query give them. -/
theorem map_fst_bindings (ht : compile text = .ok t) {rest : List String} {b : Bindings}
    (hb : t.matchPath rest = some b) (query : Query) :
    (b ++ t.queryBindings query).map Prod.fst = t.boundNames query := by
  have hpath := (Segment.of_matchAll (isWildcard_dropLast_of_compile ht) hb).1
  rw [List.map_append, map_fst_queryBindings, hpath]
  rfl

/-- **The name of a captured key finds the value of the key.** -/
theorem get?_of_captured (ht : compile text = .ok t) {rest : List String} {b : Bindings}
    (hb : t.matchPath rest = some b) (query : Query) {q : String × QueryValue} (hq : q ∈ t.queries)
    {n : String} (hn : n ∈ q.2.names) :
    Bindings.get? (b ++ t.queryBindings query) n = query.value? q.1 := by
  have hnames := map_fst_bindings ht hb query
  cases hvalue : query.value? q.1 with
  | none =>
    have hhas : query.has q.1 = false := by
      rw [← query.isSome_value?, hvalue]
      rfl
    rw [Bindings.get?_eq_none_iff, hnames]
    exact not_bound_of_not_has ht hq hhas hn
  | some value =>
    have hmem : (n, value) ∈ t.queryBindings query := by
      refine List.mem_flatMap.2 ⟨q, hq, List.mem_filterMap.2 ⟨n, hn, ?_⟩⟩
      rw [hvalue]
      rfl
    refine Bindings.get?_of_mem ?_ (n, value) (List.mem_append_right b hmem)
    rw [hnames]
    exact pairwise_boundNames ht query

end Template

namespace TemplateGroup

variable {P : Type}

/-- **What an entry answers** binds the names of its template. -/
theorem binds_answer {text : String} {e : TemplateEntry P}
    (he : Template.compile text = .ok e.template) {rest : List String} {b : Bindings}
    (hb : e.template.matchPath rest = some b) (query : Query) :
    (answer query (e, b)).Binds e.template rest query := by
  have hnames := Template.map_fst_bindings he hb query
  have hdistinct : ((answer query (e, b)).bindings.map Prod.fst).Pairwise
      fun m n => ¬ Ascii.Same m n := by
    show ((b ++ _).map Prod.fst).Pairwise _
    rw [hnames]
    exact Template.pairwise_boundNames he query
  have hfound := Bindings.get?_of_mem hdistinct
  have hvalued : ∀ q ∈ e.template.queries, ∀ n ∈ q.2.names, ∀ name, Ascii.Same n name
      → (answer query (e, b)).bindings.get? name = query.value? q.1 := by
    intro q hq n hn name hsame
    rw [← Bindings.get?_congr hsame]
    exact Template.get?_of_captured he hb query hq hn
  refine ⟨hnames, hdistinct, fun p hp name hsame => ?_, ⟨b, hb, List.prefix_append b _⟩, ?_, hvalued,
    fun name => ⟨fun hnone => ?_, ?_⟩⟩
  · rw [← Bindings.get?_congr hsame]
    exact hfound p hp
  · have hrestored := (Segment.of_matchAll (Template.isWildcard_dropLast_of_compile he) hb).2
    exact hrestored _ fun p hp => hfound p (List.mem_append_left _ hp)
  · have hunbound : ∀ n ∈ e.template.boundNames query, ¬ Ascii.Same n name :=
      hnames ▸ Bindings.get?_eq_none_iff.1 hnone
    by_cases hname : ∀ n ∈ e.template.names, ¬ Ascii.Same n name
    · exact Or.inl hname
    · -- a name of the template that is not bound is that of a key
      push Not at hname
      obtain ⟨n, hn, hsame⟩ := hname
      rcases List.mem_append.1 hn with hn | hn
      · exact absurd hsame (hunbound n (List.mem_append_left _ hn))
      · obtain ⟨q, hq, hn⟩ := List.mem_flatMap.1 hn
        refine Or.inr ⟨q, hq, Bool.eq_false_iff.2 fun hhas => ?_, n, hn, hsame⟩
        refine hunbound n (List.mem_append_right _ ?_) hsame
        exact List.mem_flatMap.2 ⟨q, List.mem_filter.2 ⟨hq, hhas⟩, hn⟩
  · rintro (hname | ⟨q, hq, hhas, n, hn, hsame⟩)
    · refine Bindings.get?_eq_none_iff.2 fun n hn => hname n ?_
      exact (e.template.boundNames_sublist query).subset (hnames ▸ hn)
    · rw [hvalued q hq n hn name hsame, ← Option.not_isSome_iff_eq_none, query.isSome_value?, hhas]
      exact Bool.false_ne_true

/-- An answer of a group is that of an entry whose path matches. -/
theorem exists_of_mem_matching {g : TemplateGroup P} {rest : List String} {query : Query}
    {m : TemplateMatch P} (hm : m ∈ g.matching rest query) :
    ∃ e ∈ g.entries, ∃ b, e.template.matchPath rest = some b ∧ m = answer query (e, b) := by
  unfold matching at hm
  dsimp only at hm
  split at hm
  · cases hm
  · obtain ⟨hit, hhit, rfl⟩ := List.mem_map.1 hm
    obtain ⟨e, he, hmap⟩ := List.mem_filterMap.1 (List.mem_filter.1 hhit).1
    obtain ⟨b, hb, rfl⟩ := Option.map_eq_some_iff.1 hmap
    exact ⟨e, he, b, hb, rfl⟩

end TemplateGroup

namespace TemplateTable

variable {P : Type}

/-- An answer of a table is that of a live template. -/
theorem exists_of_mem_matching {t : TemplateTable P} {path : String} {query : Query}
    {m : TemplateMatch P} (hm : m ∈ t.matching path query) :
    ∃ e : TemplateEntry P, e.template ∈ t.templates ∧ ∃ rest b,
      below t.basePath (Path.decodedSegments path) = some rest
        ∧ e.template.matchPath rest = some b ∧ m = TemplateGroup.answer query (e, b) := by
  unfold matching at hm
  split at hm
  · cases hm
  next rest hrest =>
    obtain ⟨g, hg, hm⟩ := List.mem_flatMap.1 hm
    obtain ⟨e, he, b, hb, rfl⟩ := TemplateGroup.exists_of_mem_matching hm
    exact ⟨e, List.mem_flatMap.2 ⟨g, hg, List.mem_map_of_mem he⟩, rest, b, hrest, hb, rfl⟩

/-- **Bindings are complete and unambiguous.** After any run, an answer to a path and a query is that of a
live template, which its text compiles to, and binds the names of this template to what the rest of the
path and the query give them. -/
theorem run_binds (dup : Bool) (base : Option String) (calls : List (TemplateCall P)) (m : Metrics)
    (path : String) (query : Query) :
    let t := (((empty dup base : TemplateTable P).run calls).result m).2
    ∀ answer ∈ t.matching path query, ∃ a ∈ t.templates, ∃ rest,
      Template.compile answer.template = .ok a
        ∧ below t.basePath (Path.decodedSegments path) = some rest
        ∧ answer.Binds a rest query := by
  intro t answer hanswer
  obtain ⟨live, h⟩ : ∃ live, t.Keeps dup live := keeps_run dup base calls m
  obtain ⟨e, he, rest, b, hrest, hb, rfl⟩ := exists_of_mem_matching hanswer
  have hcompile := h.templates_compiled e.template he
  exact ⟨e.template, he, rest, hcompile, hrest, TemplateGroup.binds_answer hcompile hb query⟩

/-- Keys in another case, one of them twice so that its first value counts, and a captured key that is not
in the query. -/
theorem run_binds_files :
    let text := "/users/\x7bid\x7d/\x7bname\x7d.\x7bext\x7d/\x7b*rest\x7d"
      ++ "?v=1&lang=\x7bl\x7d&Page=\x7bp\x7d"
    let calls : List (TemplateCall Nat) := [.add text 5]
    let t := (((empty false none).run calls).result {}).2
    let query := [("V", "1"), ("page", "2"), ("PAGE", "3")]
    ∃ answer ∈ t.matching "/users/7/log.tar.gz/a/b" query,
      (∃ a rest, Template.compile answer.template = .ok a ∧ answer.Binds a rest query)
        ∧ answer.bindings
            = [("id", "7"), ("name", "log"), ("ext", "tar.gz"), ("rest", "a/b"), ("p", "2")]
        ∧ answer.bindings.get? "ID" = some "7" ∧ answer.bindings.get? "P" = some "2"
        ∧ answer.bindings.get? "l" = none := by
  intro text calls t query
  let answer : TemplateMatch Nat :=
    ⟨5, text, [("id", "7"), ("name", "log"), ("ext", "tar.gz"), ("rest", "a/b"), ("p", "2")]⟩
  have hmatch : t.matching "/users/7/log.tar.gz/a/b" query = [answer] := by decide +kernel
  have hmem : answer ∈ t.matching "/users/7/log.tar.gz/a/b" query := hmatch ▸ List.mem_cons_self
  obtain ⟨a, -, rest, ha, -, hbinds⟩ := run_binds false none calls {} _ query _ hmem
  refine ⟨answer, hmem, ⟨a, rest, ha, hbinds⟩, rfl, ?_, ?_, ?_⟩ <;> decide +kernel

end TemplateTable

end Switchboard
