import Switchboard.Proofs.TemplateRegistry

/-!
# Dispatch by templates is unambiguous

The check at registration looks at templates two by two and in advance of any request; what it is
meant for is what happens at every request afterwards. Of the templates of one shape whose path
matches, a group answers with those of the most specific tier, and any two of these both match the
query in one tier (`TemplateGroup.exists_hits`). Templates that are apart and do so ask the same,
and only where duplicates are allowed (`Template.Apart.of_admits`). So without duplicates a group
answers at most once, and with duplicates all its answers ask the same.

Templates of different shapes that compete for paths, wildcard templates of different lengths, are
apart as well (`TemplateTable.Keeps.pairwise_apart`), with one exception. Where duplicates are
allowed the check passes over templates without constraints, and two of these that compete are both
let in although their shapes, and so what they ask, are different. There is no other exception.
-/

namespace Switchboard

/-! ## One tier -/

/-- What a tier other than the plain one admits matches the query. -/
theorem Tier.matchesQuery_of_admits {tier : Tier} {query : Query} {t : Template}
    (h : tier.admits query t) : t.matchesQuery query false ∨ (tier = .plain ∧ t.isPlain) := by
  cases tier with
  | strict => exact Or.inl (Template.matchesQuery_of_strict h)
  | interesting => exact Or.inl h
  | plain => exact Or.inr ⟨rfl, h⟩

/-- **Templates of one shape that are apart and match in one tier ask the same.** -/
theorem Template.Apart.of_admits {dup : Bool} {a b : Template} (h : Apart dup a b)
    (hshape : a.shape = b.shape) {tier : Tier} {query : Query} (ha : tier.admits query a)
    (hb : tier.admits query b) : dup ∧ a.isEquivalent b := by
  rcases Tier.matchesQuery_of_admits ha with hqa | ⟨rfl, hpa⟩
  · rcases Tier.matchesQuery_of_admits hb with hqb | ⟨rfl, hpb⟩
    · exact h.2 query hqa hqb
    · rw [Tier.admits, isPlain_of_matchesQuery hqa] at ha
      exact absurd ha Bool.false_ne_true
  · cases dup with
    | false => exact absurd ⟨hpa, hb⟩ (h.1 rfl)
    | true => exact ⟨rfl, (isEquivalent_of_isPlain hpa hb).2 hshape⟩

/-! ## One group -/

namespace TemplateGroup

variable {P : Type}

/-- The templates of the entries whose path matches. -/
theorem templates_pathHits (g : TemplateGroup P) (path : List String) :
    (g.pathHits path).map (fun h => h.1.template)
      = g.templates.filter fun a => (a.matchPath path).isSome := by
  unfold pathHits templates
  induction g.entries with
  | nil => rfl
  | cons e es ih =>
    rw [List.filterMap_cons, List.map_cons, List.filter_cons]
    cases e.template.matchPath path with
    | none => exact ih
    | some b => exact congrArg (e.template :: ·) ih

/-- The entries whose path matches are entries of the group. -/
theorem pathHits_sublist (g : TemplateGroup P) (path : List String) :
    ((g.pathHits path).map fun h => h.1.template).Sublist g.templates := by
  rw [templates_pathHits]
  exact List.filter_sublist

/-- **A group answers with entries that match in one tier.** -/
theorem exists_hits (g : TemplateGroup P) (path : List String) (query : Query) :
    ∃ (hits : List (TemplateEntry P × Bindings)) (tier : Tier),
      g.matching path query = hits.map (answer query)
      ∧ (hits.map fun h => h.1.template).Sublist g.templates
      ∧ ∀ h ∈ hits, tier.admits query h.1.template := by
  unfold matching
  dsimp only
  cases tier? query (g.pathHits path) with
  | none =>
    exact ⟨[], .plain, rfl, List.nil_sublist _, fun h hh => absurd hh List.not_mem_nil⟩
  | some tier =>
    refine ⟨_, tier, rfl, ?_, fun h hh => (List.mem_filter.1 hh).2⟩
    exact (List.filter_sublist.map _).trans (g.pathHits_sublist path)

end TemplateGroup

namespace TemplateTable

variable {P : Type}

/-- **What a group contributes** to the answers to a path and a query. -/
def contribution (t : TemplateTable P) (path : String) (query : Query) (g : TemplateGroup P) :
    List (TemplateMatch P) :=
  match below t.basePath (Path.decodedSegments path) with
  | none => []
  | some rest => g.matching rest query

/-- The answers to a path and a query are what the groups contribute. -/
theorem matching_eq (t : TemplateTable P) (path : String) (query : Query) :
    t.matching path query = t.groups.flatMap (t.contribution path query) := by
  unfold matching contribution
  cases below t.basePath (Path.decodedSegments path) with
  | none => exact (List.flatMap_eq_nil_iff.2 (fun _ _ => rfl)).symm
  | some rest => rfl

/-! ## Live templates -/

section Kept

variable {t : TemplateTable P} {dup : Bool} {live : List Template}

/-- **Any two live templates that compete are apart.** -/
theorem Keeps.pairwise_apart (h : t.Keeps dup live) :
    t.templates.Pairwise fun a b => a.sharesShape b → Template.Apart dup a b := by
  refine Template.pairwise_of_perm h.perm ?_ (h.admitted.pairwise_apart h.sound)
  intro a ha b hb hab hshares
  exact (hab (Template.sharesShape_symm hshares)).symm (h.sound a ha) (h.sound b hb)

/-- **Any two answers of a group ask the same**, and there are two only where duplicates are
allowed. -/
theorem Keeps.exists_contribution (h : t.Keeps dup live) {g : TemplateGroup P}
    (hg : g ∈ t.groups) (path : String) (query : Query) :
    ∃ hits : List (TemplateEntry P × Bindings),
      t.contribution path query g = hits.map (TemplateGroup.answer query)
      ∧ (hits.map fun hit => hit.1.template).Sublist t.templates
      ∧ (hits.map fun hit => hit.1.template).Pairwise fun a b => dup ∧ a.isEquivalent b := by
  unfold contribution
  cases below t.basePath (Path.decodedSegments path) with
  | none => exact ⟨[], rfl, List.nil_sublist _, List.Pairwise.nil⟩
  | some rest =>
    obtain ⟨hits, tier, hmatching, hsub, hadmits⟩ := g.exists_hits rest query
    have hlive := hsub.trans (TemplateGroup.templates_sublist hg)
    refine ⟨hits, hmatching, hlive, ?_⟩
    refine (h.pairwise_apart.sublist hlive).imp_of_mem (fun {a b} ha hb hab => ?_)
    -- both are of the shape of the group, and both match in its tier
    have hshape : a.shape = b.shape := by
      rw [h.filed.shape_eq g hg a (hsub.subset ha), h.filed.shape_eq g hg b (hsub.subset hb)]
    obtain ⟨hit, hhit, rfl⟩ := List.mem_map.1 ha
    obtain ⟨hit', hhit', rfl⟩ := List.mem_map.1 hb
    exact (hab (Template.sharesShape_of_shape hshape)).of_admits hshape (hadmits hit hhit)
      (hadmits hit' hhit')

/-- Without duplicates a group answers at most once. -/
theorem Keeps.length_contribution (h : t.Keeps false live) {g : TemplateGroup P}
    (hg : g ∈ t.groups) (path : String) (query : Query) :
    (t.contribution path query g).length ≤ 1 := by
  obtain ⟨hits, hcontribution, -, hpairwise⟩ := h.exists_contribution hg path query
  rw [hcontribution, List.length_map]
  rcases hits with _ | ⟨a, _ | ⟨b, hits⟩⟩
  · exact Nat.zero_le 1
  · exact Nat.le_refl 1
  · have hpair := List.rel_of_pairwise_cons hpairwise List.mem_cons_self
    exact absurd hpair.1 Bool.false_ne_true

/-- The template of an answer is what its text compiles to, and any two answers of a group ask the
same. -/
theorem Keeps.equivalent_contribution (h : t.Keeps dup live) {g : TemplateGroup P}
    (hg : g ∈ t.groups) (path : String) (query : Query) :
    ∀ m₁ ∈ t.contribution path query g, ∀ m₂ ∈ t.contribution path query g,
      ∃ a b, Template.compile m₁.template = .ok a ∧ Template.compile m₂.template = .ok b
        ∧ a.isEquivalent b := by
  obtain ⟨hits, hcontribution, hsub, hpairwise⟩ := h.exists_contribution hg path query
  have hall : ∀ ⦃a⦄, a ∈ hits.map (fun hit => hit.1.template)
      → ∀ ⦃b⦄, b ∈ hits.map (fun hit => hit.1.template) → a.isEquivalent b := by
    have hsound : ∀ a ∈ hits.map (fun hit => hit.1.template), a.Sound :=
      fun a ha => h.templates_sound a (hsub.subset ha)
    refine List.Pairwise.forall_of_forall_of_flip ?_ (hpairwise.imp (fun hab => hab.2)) ?_
    · exact fun a ha => Template.isEquivalent_refl (hsound a ha)
    · refine hpairwise.imp_of_mem (fun {a b} ha hb hab => ?_)
      exact Template.isEquivalent_symm (hsound a ha) (hsound b hb) hab.2
  intro m₁ hm₁ m₂ hm₂
  rw [hcontribution] at hm₁ hm₂
  obtain ⟨hit₁, hhit₁, rfl⟩ := List.mem_map.1 hm₁
  obtain ⟨hit₂, hhit₂, rfl⟩ := List.mem_map.1 hm₂
  have hmem₁ := List.mem_map_of_mem (f := fun hit => hit.1.template) hhit₁
  have hmem₂ := List.mem_map_of_mem (f := fun hit => hit.1.template) hhit₂
  exact ⟨hit₁.1.template, hit₂.1.template, h.templates_compiled _ (hsub.subset hmem₁),
    h.templates_compiled _ (hsub.subset hmem₂), hall hmem₁ hmem₂⟩

end Kept

/-! ## Every run -/

/-- **Dispatch is unambiguous inside a shape.** After any run, the groups hold the templates of one
shape each. Without duplicates a group contributes at most one answer to any request, and two live
templates that compete are neither both without constraints nor both matched by one query. With
duplicates any two answers that a group contributes come from templates that ask the same. -/
theorem run_unambiguous (dup : Bool) (base : Option String) (calls : List (TemplateCall P))
    (m : Metrics) :
    let t := (((empty dup base : TemplateTable P).run calls).result m).2
    TemplateGroup.Filed t.groups
      ∧ (∀ path query, t.matching path query = t.groups.flatMap (t.contribution path query))
      ∧ (dup = false →
          (∀ g ∈ t.groups, ∀ path query, (t.contribution path query g).length ≤ 1)
            ∧ t.templates.Pairwise fun a b => a.sharesShape b
                → ¬ (a.isPlain ∧ b.isPlain)
                  ∧ ∀ query, ¬ (a.matchesQuery query false ∧ b.matchesQuery query false))
      ∧ (dup = true →
          ∀ g ∈ t.groups, ∀ path query,
            ∀ m₁ ∈ t.contribution path query g, ∀ m₂ ∈ t.contribution path query g,
              ∃ a b, Template.compile m₁.template = .ok a ∧ Template.compile m₂.template = .ok b
                ∧ a.isEquivalent b) := by
  intro t
  obtain ⟨live, h⟩ : ∃ live, t.Keeps dup live := keeps_run dup base calls m
  refine ⟨h.filed, t.matching_eq, ?_, ?_⟩
  · rintro rfl
    refine ⟨fun g hg => h.length_contribution hg, h.pairwise_apart.imp (fun hab hshares => ?_)⟩
    obtain ⟨hplain, hquery⟩ := hab hshares
    refine ⟨hplain rfl, fun query ⟨hqa, hqb⟩ => ?_⟩
    exact absurd (hquery query hqa hqb).1 Bool.false_ne_true
  · rintro -
    exact fun g hg => h.equivalent_contribution hg

/-- A template with a constraint and one without stand side by side and answer one at a time; where
duplicates are allowed, a template that is registered twice answers twice. -/
theorem run_unambiguous_items :
    (let t := (((empty false none : TemplateTable Nat).run
        [.add "/items" 1, .add "/items?format=xml" 2]).result {}).2;
      t.size = 2 ∧ (t.matching "/items" [("format", "xml")]).length = 1
        ∧ ∀ g ∈ t.groups, ∀ path query, (t.contribution path query g).length ≤ 1)
      ∧ (let t := (((empty true none : TemplateTable Nat).run
          [.add "/items" 1, .add "/items" 2]).result {}).2;
        t.size = 2 ∧ (t.matching "/items" [("format", "xml")]).length = 2
          ∧ ∀ g ∈ t.groups, ∀ path query,
            ∀ m₁ ∈ t.contribution path query g, ∀ m₂ ∈ t.contribution path query g,
              ∃ a b, Template.compile m₁.template = .ok a ∧ Template.compile m₂.template = .ok b
                ∧ a.isEquivalent b) := by
  refine ⟨⟨?_, ?_, ((run_unambiguous false none _ _).2.2.1 rfl).1⟩,
    ⟨?_, ?_, (run_unambiguous true none _ _).2.2.2 rfl⟩⟩
  · decide +kernel
  · decide +kernel
  · decide +kernel
  · decide +kernel

/-- **Where duplicates are allowed, two live templates that compete and are both without constraints,
or both matched by one query, ask the same – unless they are without constraints and of different
shapes.** -/
theorem run_equivalent_iff (base : Option String) (calls : List (TemplateCall P)) (m : Metrics) :
    let t := (((empty true base : TemplateTable P).run calls).result m).2
    t.templates.Pairwise fun a b => a.sharesShape b →
      (((a.isPlain ∧ b.isPlain
            ∨ ∃ query, a.matchesQuery query false ∧ b.matchesQuery query false)
          → a.isEquivalent b)
        ↔ ¬ (a.isPlain ∧ b.isPlain ∧ a.shape ≠ b.shape)) := by
  intro t
  obtain ⟨live, h⟩ : ∃ live, t.Keeps true live := keeps_run true base calls m
  refine h.pairwise_apart.imp (fun {a b} hab hshares => ⟨fun hsame hplain => ?_, fun hnot => ?_⟩)
  · obtain ⟨hpa, hpb, hshape⟩ := hplain
    have he := hsame (Or.inl ⟨hpa, hpb⟩)
    exact hshape ((Template.isEquivalent_of_isPlain hpa hpb).1 he)
  · rintro (⟨hpa, hpb⟩ | ⟨query, hqa, hqb⟩)
    · refine (Template.isEquivalent_of_isPlain hpa hpb).2 ?_
      by_contra hshape
      exact hnot ⟨hpa, hpb, hshape⟩
    · exact ((hab hshares).2 query hqa hqb).2

/-- Two wildcard templates without constraints that compete, one longer than the other, are both let
in where duplicates are allowed, and do not ask the same. -/
theorem nested_wildcards_not_equivalent :
    let t := (((empty true none : TemplateTable Nat).run
      [.add "/a/*" 1, .add "/a/\x7bx\x7d/*" 2]).result {}).2
    ∃ a b, t.templates = [a, b] ∧ a.text = "/a/*" ∧ b.text = "/a/\x7bx\x7d/*"
      ∧ a.sharesShape b ∧ a.isPlain ∧ b.isPlain ∧ a.isEquivalent b = false := by
  refine ⟨⟨"/a/*", [.literal "a", .wildcard none], []⟩,
    ⟨"/a/\x7bx\x7d/*", [.literal "a", .capture "x", .wildcard none], []⟩, ?_⟩
  decide +kernel

end TemplateTable

end Switchboard
