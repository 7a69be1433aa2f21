import Mathlib.Data.List.Basic
import Switchboard.TemplateTable

/-!
# What a template is refused for

A template is refused at two points. Its text may be no template, and is then refused for its format,
before the table is looked at. Or the check finds that it cannot stand beside those that compete with
it. The check has many ways to say so, and all of them are conflicts: two templates without constraints,
two that agree at the common keys, or no common key at all. None of this asks how the table came about,
so a refusal tells of itself at which of the two points it was made
(`TemplateTable.format_or_conflict_of_add`).
-/

namespace Switchboard

namespace Template

/-- A text that does not compile is refused by its format. -/
theorem eq_format_of_compile {text : String} {e : DispatchError} (h : compile text = .error e) :
    ∃ fault, e = .format text fault := by
  unfold compile at h
  cases hparts : compileParts text with
  | error fault =>
    rw [hparts] at h
    cases h
    exact ⟨fault, rfl⟩
  | ok t =>
    rw [hparts] at h
    cases h

/-! ## The check -/

/-- A clash names the two templates, and they agree on the keys looked at. -/
theorem of_clash?_eq_some {dup : Bool} {keys : List String} {a b : Template} {e : DispatchError}
    (h : clash? dup keys a b = some e) :
    agreeOn keys a b = true ∧ ∃ reason, e = .conflict a.text (some b.text) reason := by
  unfold clash? at h
  split at h
  · cases h
  next hagree =>
    rw [Bool.not_eq_true, Bool.not_eq_false'] at hagree
    refine ⟨hagree, ?_⟩
    split at h
    · exact ⟨_, (Option.some.inj h).symm⟩
    split at h
    · cases h
    · exact ⟨_, (Option.some.inj h).symm⟩

/-- The first clash is one of two templates of the list. -/
theorem of_firstClash?_eq_some {dup : Bool} {keys : List String} {ts : List Template}
    {e : DispatchError} (h : firstClash? dup keys ts = some e) :
    ∃ a b, [a, b].Sublist ts ∧ clash? dup keys a b = some e := by
  induction ts with
  | nil => cases h
  | cons t ts ih =>
    rw [firstClash?, Option.or_eq_some_iff] at h
    rcases h with h | ⟨-, h⟩
    · obtain ⟨b, hb, hclash⟩ := List.exists_of_findSome?_eq_some h
      exact ⟨t, b, (List.singleton_sublist.2 hb).cons_cons t, hclash⟩
    · obtain ⟨a, b, hsublist, hclash⟩ := ih h
      exact ⟨a, b, hsublist.cons t, hclash⟩

/-- What is reported of templates without constraints names the first two. -/
theorem of_plainFault?_eq_some {dup : Bool} {ts : List Template} {e : DispatchError}
    (h : plainFault? dup ts = some e) :
    ∃ a b, [a, b].Sublist ts ∧ e = .conflict a.text (some b.text) .bothPlain := by
  unfold plainFault? at h
  split at h
  next a b ts =>
    split at h
    · cases h
    · exact ⟨a, b, ((List.nil_sublist ts).cons_cons b).cons_cons a, (Option.some.inj h).symm⟩
  next => cases h

/-- Constrained templates are refused as a conflict. -/
theorem exists_conflict_of_constrainedFault? {dup : Bool} {ts : List Template} {e : DispatchError}
    (h : constrainedFault? dup ts = some e) :
    ∃ first second why, e = .conflict first second why := by
  unfold constrainedFault? at h
  split at h
  · cases h
  · cases h
  split at h
  · split at h
    · cases h
    · exact ⟨_, _, _, (Option.some.inj h).symm⟩
  · obtain ⟨a, b, -, hclash⟩ := of_firstClash?_eq_some h
    obtain ⟨-, why, rfl⟩ := of_clash?_eq_some hclash
    exact ⟨_, _, why, rfl⟩

/-- **The check refuses conflicts** and nothing else. -/
theorem exists_conflict_of_checkGroup {dup : Bool} {ts : List Template} {e : DispatchError}
    (h : checkGroup dup ts = .error e) : ∃ first second why, e = .conflict first second why := by
  unfold checkGroup at h
  split at h
  next fault hfault =>
    obtain rfl := Except.error.inj h
    unfold groupFault? at hfault
    rw [Option.or_eq_some_iff] at hfault
    rcases hfault with hplain | ⟨-, hconstrained⟩
    · obtain ⟨a, b, -, rfl⟩ := of_plainFault?_eq_some hplain
      exact ⟨_, _, _, rfl⟩
    · exact exists_conflict_of_constrainedFault? hconstrained
  next => cases h

end Template

/-! ## The table -/

namespace TemplateTable

variable {P : Type} {t : TemplateTable P} {text : String} {payload : P} {reason : DispatchError}

/-- A compiled template is refused for a conflict with those that compete with it. -/
theorem exists_conflict_of_addTemplate {template : Template}
    (h : t.addTemplate template payload = .error reason) :
    ∃ first second why, reason = .conflict first second why := by
  unfold addTemplate at h
  cases hcheck : Template.checkGroup t.allowDuplicates (t.rivals template ++ [template]) with
  | error e =>
    rw [hcheck] at h
    obtain rfl := Except.error.inj h
    exact Template.exists_conflict_of_checkGroup hcheck
  | ok _ =>
    rw [hcheck] at h
    cases h

/-- **The template table refuses a text for its format**, or the template for a conflict with those that
compete with it. -/
theorem format_or_conflict_of_add (h : t.add text payload = .error reason) :
    (∃ fault, reason = .format text fault)
      ∨ ∃ first second why, reason = .conflict first second why := by
  unfold add at h
  cases hcompile : Template.compile text with
  | error e =>
    rw [hcompile] at h
    obtain rfl := Except.error.inj h
    exact Or.inl (Template.eq_format_of_compile hcompile)
  | ok template =>
    rw [hcompile] at h
    exact Or.inr (exists_conflict_of_addTemplate h)

end TemplateTable

end Switchboard
