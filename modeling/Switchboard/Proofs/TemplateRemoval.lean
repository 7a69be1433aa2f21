import Switchboard.Proofs.Refusals
import Switchboard.Proofs.TemplateRegistry

/-!
# Removing a template

When a template is removed, what is left of its group is checked again. The check always passes, and
not because the group was checked before: a template is checked once, when it comes, together with
those that compete with it at that time, which may be fewer than its group is now or more, and of
other shapes. It passes because of two properties of the check. Its verdict does not depend on the
order of the templates (`Template.checkGroup_perm`), though the fault that it names does. And
templates that pass still pass when some of them are taken away (`Template.checkGroup_sublist`): the
keys that all of them fix can only become more, and two templates that differ at a common key still
do; where they have no common key but ask the same, those that are left ask the same.

So a removal is refused only when its text does not compile, and otherwise it says whether a template
of exactly that text was there (`TemplateTable.Keeps.remove?_eq_some_iff`).
-/

namespace Switchboard

/-! ## The verdict of the check -/

namespace Template

/-- A **compiled** template is what some text compiles to. -/
def Compiled (t : Template) : Prop :=
  ∃ text, compile text = .ok t

theorem Compiled.sound {t : Template} (h : t.Compiled) : t.Sound := by
  obtain ⟨text, htext⟩ := h
  exact (compile_sound htext).1

section Verdict

variable {dup : Bool} {ts us : List Template}

/-- **The verdict of the check does not depend on the order.** -/
theorem checkGroup_perm (hs : ∀ t ∈ ts, t.Sound) (hp : ts.Perm us) :
    checkGroup dup ts = .ok () ↔ checkGroup dup us = .ok () := by
  have hs' : ∀ t ∈ us, t.Sound := fun t ht => hs t (hp.symm.subset ht)
  rw [checkGroup_eq_ok_iff hs, checkGroup_eq_ok_iff hs']
  exact ⟨fun h => h.perm hs hp, fun h => h.perm hs' hp.symm⟩

/-- **Templates that pass still pass when some of them are taken away.** -/
theorem checkGroup_sublist (hs : ∀ t ∈ ts, t.Sound) (hus : us.Sublist ts)
    (h : checkGroup dup ts = .ok ()) : checkGroup dup us = .ok () := by
  rw [checkGroup_eq_ok_iff (fun t ht => hs t (hus.subset ht))]
  exact ((checkGroup_eq_ok_iff hs).1 h).sublist hus

end Verdict

end Template

/-! ## What a removal answers -/

namespace TemplateTable

variable {P : Type} {t : TemplateTable P}

/-- The texts of a table are those that its templates were written as. -/
theorem mem_texts {text : String} : text ∈ t.texts ↔ ∃ a ∈ t.templates, a.text = text :=
  List.mem_map

/-- A text that does not compile is not removed. -/
theorem remove?_of_error {text : String} {e : DispatchError}
    (h : Template.compile text = .error e) : t.remove? text = .error e := by
  unfold remove?
  rw [h]
  rfl

/-- Where no template was written as the text, there is nothing to remove. -/
theorem remove?_of_not_mem {text : String} {a : Template} (ha : Template.compile text = .ok a)
    (h : text ∉ t.texts) : t.remove? text = .ok none := by
  unfold remove?
  rw [ha]
  dsimp only [bind, Except.bind]
  cases hfind : t.groups.find? fun g => g.shape = a.shape with
  | none => rfl
  | some g =>
    have hnone : g.entries.any (isWritten text) = false := by
      refine List.any_eq_false.2 (fun e he hwritten => h (mem_texts.2 ⟨e.template, ?_, ?_⟩))
      · exact List.mem_flatMap.2 ⟨g, List.mem_of_find?_eq_some hfind, List.mem_map_of_mem he⟩
      · exact of_decide_eq_true hwritten
    dsimp only
    rw [hnone]
    rfl

section Kept

variable {dup : Bool} {live : List Template}

/-- A text that a live template was written as is removed. -/
theorem Keeps.remove?_of_mem (h : t.Keeps dup live) {text : String} (htext : text ∈ t.texts) :
    ∃ t', t.remove? text = .ok (some t') := by
  obtain ⟨a, ha, rfl⟩ := mem_texts.1 htext
  exact h.remove?_eq_ok (h.perm.symm.subset ha)

/-- **A removal finds something** exactly when a live template was written as the text. -/
theorem Keeps.remove?_eq_some_iff (h : t.Keeps dup live) {text : String} :
    (∃ t', t.remove? text = .ok (some t')) ↔ text ∈ t.texts := by
  refine ⟨fun ⟨t', ht'⟩ => ?_, h.remove?_of_mem⟩
  by_contra hnot
  cases hcompile : Template.compile text with
  | error e =>
    rw [remove?_of_error hcompile] at ht'
    cases ht'
  | ok a =>
    rw [remove?_of_not_mem hcompile hnot] at ht'
    cases ht'

/-- **A removal finds nothing** exactly when the text compiles and no live template was written as
it. -/
theorem Keeps.remove?_eq_none_iff (h : t.Keeps dup live) {text : String} :
    t.remove? text = .ok none ↔ (∃ a, Template.compile text = .ok a) ∧ text ∉ t.texts := by
  constructor
  · intro hnone
    refine ⟨?_, fun htext => ?_⟩
    · cases hcompile : Template.compile text with
      | error e =>
        rw [remove?_of_error hcompile] at hnone
        cases hnone
      | ok a => exact ⟨a, rfl⟩
    · obtain ⟨t', ht'⟩ := h.remove?_of_mem htext
      rw [hnone] at ht'
      cases ht'
  · rintro ⟨⟨a, ha⟩, hnot⟩
    exact remove?_of_not_mem ha hnot

/-- **A removal is refused** exactly as its text is. -/
theorem Keeps.remove?_eq_error_iff (h : t.Keeps dup live) {text : String} {e : DispatchError} :
    t.remove? text = .error e ↔ Template.compile text = .error e := by
  refine ⟨fun herror => ?_, remove?_of_error⟩
  cases hcompile : Template.compile text with
  | error e' =>
    rw [remove?_of_error hcompile] at herror
    rw [Except.error.inj herror]
  | ok a =>
    by_cases htext : text ∈ t.texts
    · obtain ⟨t', ht'⟩ := h.remove?_of_mem htext
      rw [herror] at ht'
      cases ht'
    · rw [remove?_of_not_mem hcompile htext] at herror
      cases herror

end Kept

/-! ## Every run -/

/-- **A removal is never refused for a conflict.** The verdict of the check on compiled templates,
of whatever shapes, does not depend on their order, and templates that pass still pass when some of
them are taken away. After any run, a removal is refused exactly when and as its text is, which is for
its format; otherwise it finds something exactly when a live template was written as the text. -/
theorem removal_never_conflicts (dup : Bool) :
    (∀ ts us : List Template, (∀ a ∈ ts, a.Compiled) → ts.Perm us
        → (Template.checkGroup dup ts = .ok () ↔ Template.checkGroup dup us = .ok ()))
      ∧ (∀ ts us : List Template, (∀ a ∈ ts, a.Compiled) → us.Sublist ts
          → Template.checkGroup dup ts = .ok () → Template.checkGroup dup us = .ok ())
      ∧ ∀ (base : Option String) (calls : List (TemplateCall P)) (m : Metrics) (text : String),
          let t := (((empty dup base : TemplateTable P).run calls).result m).2
          (∀ e, t.remove? text = .error e ↔ Template.compile text = .error e)
            ∧ (∀ e, t.remove? text = .error e → ∃ fault, e = .format text fault)
            ∧ ((∃ t', t.remove? text = .ok (some t')) ↔ text ∈ t.texts)
            ∧ (t.remove? text = .ok none
                ↔ (∃ a, Template.compile text = .ok a) ∧ text ∉ t.texts) := by
  refine ⟨fun ts us hts => Template.checkGroup_perm (fun a ha => (hts a ha).sound),
    fun ts us hts => Template.checkGroup_sublist (fun a ha => (hts a ha).sound), ?_⟩
  intro base calls m text t
  obtain ⟨live, h⟩ : ∃ live, t.Keeps dup live := keeps_run dup base calls m
  refine ⟨fun e => h.remove?_eq_error_iff, fun e he => ?_, h.remove?_eq_some_iff,
    h.remove?_eq_none_iff⟩
  exact Template.eq_format_of_compile (h.remove?_eq_error_iff.1 he)

/-- Three templates pass in either order, and two of them pass without the third, with one common key
more. Of two live templates one can be removed; a text that is not live, or that does not compile, is
answered for what it is. -/
theorem removal_never_conflicts_items :
    (∃ ts : List Template,
        ts.map Template.text = ["/items?a=1&b=1", "/items?a=2&b=1", "/items?a=3"]
          ∧ (∀ a ∈ ts, a.Compiled)
          ∧ Template.checkGroup false ts = .ok ()
          ∧ Template.checkGroup false ts.reverse = .ok ()
          ∧ Template.checkGroup false (ts.take 2) = .ok ())
      ∧ (let t := (((empty false none : TemplateTable Nat).run
            [.add "/items" 1, .add "/items?a=1" 2]).result {}).2;
        (∃ t', t.remove? "/items?a=1" = .ok (some t'))
          ∧ t.remove? "/items?A=1" = .ok none
          ∧ t.remove? "/items/\x7b"
            = .error (.format "/items/\x7b" (.unreadable "\x7b" .strayOpen))) := by
  obtain ⟨hperm, hsublist, hremove⟩ := removal_never_conflicts (P := Nat) false
  refine ⟨?_, ?_⟩
  · let ts : List Template :=
      [⟨"/items?a=1&b=1", [.literal "items"], [("a", .literal "1"), ("b", .literal "1")]⟩,
        ⟨"/items?a=2&b=1", [.literal "items"], [("a", .literal "2"), ("b", .literal "1")]⟩,
        ⟨"/items?a=3", [.literal "items"], [("a", .literal "3")]⟩]
    have hcompile : ∀ a ∈ ts, Template.compile a.text = .ok a := by decide +kernel
    have hcompiled : ∀ a ∈ ts, a.Compiled := fun a ha => ⟨a.text, hcompile a ha⟩
    have hsound : ∀ a ∈ ts, a.Sound := fun a ha => (hcompiled a ha).sound
    have hok : Template.checkGroup false ts = .ok () := by
      rw [Template.checkGroup_eq_ok_iff hsound, ← Template.unsortedFault?_eq_none_iff hsound]
      decide +kernel
    exact ⟨ts, rfl, hcompiled, hok, (hperm ts _ hcompiled (List.reverse_perm ts).symm).1 hok,
      hsublist ts _ hcompiled (List.take_sublist 2 ts) hok⟩
  · obtain ⟨-, -, hfound, -⟩ := hremove none [.add "/items" 1, .add "/items?a=1" 2] {} "/items?a=1"
    obtain ⟨-, -, -, hnothing⟩ :=
      hremove none [.add "/items" 1, .add "/items?a=1" 2] {} "/items?A=1"
    obtain ⟨hrefused, -⟩ := hremove none [.add "/items" 1, .add "/items?a=1" 2] {} "/items/\x7b"
    have hcompile : Template.compile "/items?A=1"
        = .ok ⟨"/items?A=1", [.literal "items"], [("A", .literal "1")]⟩ := by decide +kernel
    exact ⟨hfound.2 (by decide +kernel), hnothing.2 ⟨⟨_, hcompile⟩, by decide +kernel⟩,
      (hrefused _).2 (by decide +kernel)⟩

end TemplateTable

end Switchboard
