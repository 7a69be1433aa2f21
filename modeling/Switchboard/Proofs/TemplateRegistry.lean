import Mathlib.Data.List.Flatten
import Switchboard.Proofs.Ambiguity
import Switchboard.Proofs.Calls

/-!
# What the template table lets in

The templates of a table are its **live** ones. They were let in one after another, and each was
checked, when it came, with those that competed with it; others have gone since. This is all that
the table promises of them (`Template.Admitted`), and it is what is left when any of them is taken
away.

`TemplateTable.Keeps` says that a table keeps a list of live templates, newest first: the groups of
the table hold these templates and no others, a group to each shape, each template is what its text
compiles to, and they were admitted. A table without templates keeps the empty list, a registration
puts one template in front (`Keeps.add`), a removal takes one out (`Keeps.remove?`), and no other
call changes the list. So every run leaves a table that keeps some list (`keeps_run`).
-/

namespace Switchboard

/-! ## Templates let in one after another -/

namespace Template

/-- The templates of a list that compete with one. -/
def neighbours (ts : List Template) (a : Template) : List Template :=
  ts.filter fun other => other.sharesShape a

/-- **Admitted templates**, newest first: each was admissible, when it came, together with those
that competed with it. -/
inductive Admitted (dup : Bool) : List Template → Prop where
  /-- There are none. -/
  | nil : Admitted dup []
  /-- One more has come. -/
  | cons {t : Template} {earlier : List Template}
      (admissible : Admissible dup (neighbours earlier t ++ [t]))
      (admitted : Admitted dup earlier) : Admitted dup (t :: earlier)

/-- **What is left of admitted templates is admitted.** -/
theorem Admitted.sublist {dup : Bool} {ts us : List Template} (h : Admitted dup ts)
    (hus : us.Sublist ts) : Admitted dup us := by
  induction h generalizing us with
  | nil =>
    rw [List.sublist_nil.1 hus]
    exact .nil
  | cons hadmissible _ ih =>
    cases hus with
    | cons _ hus => exact ih hus
    | cons_cons _ hus =>
      -- the newest stays, and fewer compete with it
      refine .cons (hadmissible.sublist ?_) (ih hus)
      exact (hus.filter _).append (List.Sublist.refl _)

/-- **Any two admitted templates that compete are apart.** -/
theorem Admitted.pairwise_apart {dup : Bool} {ts : List Template} (h : Admitted dup ts)
    (hs : ∀ t ∈ ts, t.Sound) : ts.Pairwise fun a b => a.sharesShape b → Apart dup a b := by
  induction h with
  | nil => exact List.Pairwise.nil
  | @cons t earlier hadmissible _ ih =>
    refine List.pairwise_cons.2 ⟨fun other hother hshares => ?_, ?_⟩
    · have hpair : [other, t].Sublist (neighbours earlier t ++ [t]) := by
        refine (List.singleton_sublist.2 ?_).append (List.Sublist.refl [t])
        exact List.mem_filter.2 ⟨hother, sharesShape_symm hshares⟩
      exact (hadmissible.sublist hpair).apart.symm (hs other (List.mem_cons_of_mem t hother))
        (hs t List.mem_cons_self)
    · exact ih (fun u hu => hs u (List.mem_cons_of_mem t hu))

/-- **Admitted templates that all compete with each other are admissible.** -/
theorem Admitted.admissible {dup : Bool} {ts : List Template} (h : Admitted dup ts)
    (hs : ∀ t ∈ ts, t.Sound) (hshares : ∀ a ∈ ts, ∀ b ∈ ts, a.sharesShape b) :
    Admissible dup ts := by
  cases h with
  | nil => exact ⟨fun _ => Nat.zero_le 1, Or.inl (Nat.zero_le 1)⟩
  | @cons t earlier hadmissible _ =>
    have hall : neighbours earlier t = earlier :=
      List.filter_eq_self.2
        (fun other hother => hshares other (List.mem_cons_of_mem t hother) t List.mem_cons_self)
    rw [hall] at hadmissible
    have hperm := List.perm_append_singleton t earlier
    exact hadmissible.perm (fun u hu => hs u (hperm.subset hu)) hperm

end Template

/-! ## Groups -/

namespace TemplateGroup

variable {P : Type}

/-- Groups in order: one for each shape, with templates of that shape. -/
structure Filed (gs : List (TemplateGroup P)) : Prop where
  /-- No two groups have one shape. -/
  shapes : gs.Pairwise fun g g' => g.shape ≠ g'.shape
  /-- The templates of a group have its shape. -/
  shape_eq : ∀ g ∈ gs, ∀ a ∈ g.templates, a.shape = g.shape

theorem filed_nil : Filed ([] : List (TemplateGroup P)) :=
  ⟨List.Pairwise.nil, fun _ hg => absurd hg List.not_mem_nil⟩

/-- A group is found by its shape. -/
theorem find?_shape {gs : List (TemplateGroup P)} {g : TemplateGroup P} (h : Filed gs)
    (hg : g ∈ gs) {shape : String} (hshape : g.shape = shape) :
    gs.find? (fun g' => g'.shape = shape) = some g := by
  cases hfound : gs.find? fun g' => g'.shape = shape with
  | none => exact absurd (decide_eq_true hshape) (List.find?_eq_none.1 hfound g hg)
  | some g' =>
    have hsame := List.find?_some hfound
    have hnodup : (gs.map TemplateGroup.shape).Nodup := List.pairwise_map.2 h.shapes
    rw [List.inj_on_of_nodup_map hnodup (List.mem_of_find?_eq_some hfound) hg
      ((of_decide_eq_true hsame).trans hshape.symm)]

/-- The templates of a group are among all. -/
theorem templates_sublist {gs : List (TemplateGroup P)} {g : TemplateGroup P} (hg : g ∈ gs) :
    g.templates.Sublist (gs.flatMap templates) := by
  have hone := (List.singleton_sublist.2 hg).flatMap templates
  rwa [List.flatMap_singleton] at hone

/-- A template put in its group is one more template. -/
theorem templates_place (e : TemplateEntry P) (gs : List (TemplateGroup P)) :
    ((place e gs).flatMap templates).Perm (e.template :: gs.flatMap templates) := by
  induction gs with
  | nil => exact List.Perm.refl _
  | cons g gs ih =>
    unfold place
    split
    · have hg : templates { g with entries := g.entries ++ [e] } = g.templates ++ [e.template] :=
        List.map_append
      rw [List.flatMap_cons, hg, List.append_assoc]
      show (g.templates ++ e.template :: gs.flatMap templates).Perm
        (e.template :: (g.templates ++ gs.flatMap templates))
      exact List.perm_middle
    · show (g.templates ++ (place e gs).flatMap templates).Perm
        (e.template :: (g.templates ++ gs.flatMap templates))
      exact (ih.append_left g.templates).trans List.perm_middle

/-- The shapes of the groups after a template was put in: those before, and its own. -/
theorem shape_mem_place {e : TemplateEntry P} {gs : List (TemplateGroup P)} {g : TemplateGroup P}
    (hg : g ∈ place e gs) : g.shape = e.template.shape ∨ ∃ g' ∈ gs, g'.shape = g.shape := by
  induction gs with
  | nil => exact Or.inl (List.mem_singleton.1 hg ▸ rfl)
  | cons g' gs ih =>
    unfold place at hg
    split at hg
    next hshape =>
      rcases List.mem_cons.1 hg with rfl | hg
      · exact Or.inl hshape
      · exact Or.inr ⟨g, List.mem_cons_of_mem g' hg, rfl⟩
    next =>
      rcases List.mem_cons.1 hg with rfl | hg
      · exact Or.inr ⟨g, List.mem_cons_self, rfl⟩
      · exact (ih hg).imp_right (fun ⟨g'', hg'', hs⟩ => ⟨g'', List.mem_cons_of_mem g' hg'', hs⟩)

/-- Groups stay in order when a template is put in. -/
theorem filed_place {gs : List (TemplateGroup P)} (h : Filed gs) (e : TemplateEntry P) :
    Filed (place e gs) := by
  induction gs with
  | nil =>
    refine ⟨List.pairwise_singleton _ _, fun g hg a ha => ?_⟩
    rw [List.mem_singleton.1 hg] at ha ⊢
    rw [List.mem_singleton.1 ha]
  | cons g gs ih =>
    obtain ⟨hhead, htail⟩ := List.pairwise_cons.1 h.shapes
    have hrest : Filed gs := ⟨htail, fun g' hg' => h.shape_eq g' (List.mem_cons_of_mem g hg')⟩
    unfold place
    split
    next hshape =>
      refine ⟨List.pairwise_cons.2 ⟨hhead, htail⟩, fun g' hg' a ha => ?_⟩
      rcases List.mem_cons.1 hg' with rfl | hg'
      · unfold templates at ha
        rw [List.map_append] at ha
        rcases List.mem_append.1 ha with ha | ha
        · exact h.shape_eq g List.mem_cons_self a ha
        · rw [List.mem_singleton.1 ha]
          exact hshape.symm
      · exact hrest.shape_eq g' hg' a ha
    next hshape =>
      refine ⟨List.pairwise_cons.2 ⟨fun g' hg' => ?_, (ih hrest).shapes⟩, fun g' hg' => ?_⟩
      · rcases shape_mem_place hg' with hnew | ⟨g'', hg'', hold⟩
        · rw [hnew]
          exact hshape
        · rw [← hold]
          exact hhead g'' hg''
      · rcases List.mem_cons.1 hg' with rfl | hg'
        · exact h.shape_eq g' List.mem_cons_self
        · exact (ih hrest).shape_eq g' hg'

/-- **Replacing the entries of one group** leaves the others; without entries the group goes. -/
theorem replace_eq {l r : List (TemplateGroup P)} {g : TemplateGroup P}
    (h : Filed (l ++ g :: r)) (entries : List (TemplateEntry P)) :
    replace g.shape entries (l ++ g :: r)
      = l ++ (if entries.isEmpty then [] else [{ g with entries }]) ++ r := by
  obtain ⟨-, hright, hcross⟩ := List.pairwise_append.1 h.shapes
  have hl : ∀ g' ∈ l, g'.shape ≠ g.shape := fun g' hg' => hcross g' hg' g List.mem_cons_self
  have hr : ∀ g' ∈ r, g'.shape ≠ g.shape :=
    fun g' hg' => ((List.pairwise_cons.1 hright).1 g' hg').symm
  unfold replace
  split
  · have hkeep : ∀ gs : List (TemplateGroup P), (∀ g' ∈ gs, g'.shape ≠ g.shape)
        → gs.filter (fun g' => g'.shape ≠ g.shape) = gs :=
      fun gs hgs => List.filter_eq_self.2 (fun g' hg' => decide_eq_true (hgs g' hg'))
    rw [List.filter_append, List.filter_cons_of_neg (by simp), hkeep l hl, hkeep r hr,
      List.append_nil]
  · have hkeep : ∀ gs : List (TemplateGroup P), (∀ g' ∈ gs, g'.shape ≠ g.shape)
        → gs.map (fun g' => if g'.shape = g.shape then { g' with entries } else g') = gs := by
      intro gs hgs
      exact (List.map_congr_left (fun g' hg' => if_neg (hgs g' hg'))).trans (List.map_id gs)
    rw [List.map_append, List.map_cons, if_pos rfl, hkeep l hl, hkeep r hr, List.append_assoc]
    rfl

/-- Groups stay in order when some entries of one are taken away. -/
theorem filed_replace {gs : List (TemplateGroup P)} {g : TemplateGroup P} (h : Filed gs)
    (hg : g ∈ gs) {entries : List (TemplateEntry P)} (hentries : entries.Sublist g.entries) :
    Filed (replace g.shape entries gs) := by
  obtain ⟨l, r, rfl⟩ := List.append_of_mem hg
  have hshapes : ((replace g.shape entries (l ++ g :: r)).map TemplateGroup.shape).Sublist
      ((l ++ g :: r).map TemplateGroup.shape) := by
    rw [replace_eq h]
    split
    · rw [List.append_nil]
      exact ((List.Sublist.refl l).append (List.sublist_cons_self g r)).map _
    · rw [List.map_append, List.map_append, List.append_assoc, List.map_append]
      exact List.Sublist.refl _
  refine ⟨List.pairwise_map.1 ((List.pairwise_map.2 h.shapes).sublist hshapes), ?_⟩
  intro g' hg' a ha
  rw [replace_eq h, List.append_assoc] at hg'
  rcases List.mem_append.1 hg' with hl | hg'
  · exact h.shape_eq g' (List.mem_append_left _ hl) a ha
  rcases List.mem_append.1 hg' with hg' | hr
  · split at hg'
    · cases hg'
    · rw [List.mem_singleton.1 hg'] at ha ⊢
      exact h.shape_eq g hg a ((hentries.map _).subset ha)
  · exact h.shape_eq g' (List.mem_append_right l (List.mem_cons_of_mem g hr)) a ha

/-- **One entry taken out of its group** is one template taken out of all. -/
theorem templates_taken {gs : List (TemplateGroup P)} {g : TemplateGroup P} (h : Filed gs)
    (hg : g ∈ gs) {l₁ l₂ : List (TemplateEntry P)} {e : TemplateEntry P}
    (hentries : g.entries = l₁ ++ e :: l₂) :
    ∃ xs ys, gs.flatMap templates = xs ++ e.template :: ys
      ∧ (replace g.shape (l₁ ++ l₂) gs).flatMap templates = xs ++ ys := by
  obtain ⟨l, r, rfl⟩ := List.append_of_mem hg
  refine ⟨l.flatMap templates ++ l₁.map TemplateEntry.template,
    l₂.map TemplateEntry.template ++ r.flatMap templates, ?_, ?_⟩
  · have hgroup : g.templates
        = l₁.map TemplateEntry.template ++ e.template :: l₂.map TemplateEntry.template := by
      unfold templates
      rw [hentries, List.map_append, List.map_cons]
    rw [List.flatMap_append, List.flatMap_cons, hgroup]
    simp
  · rw [replace_eq h, List.flatMap_append, List.flatMap_append]
    split
    next hempty =>
      obtain ⟨rfl, rfl⟩ := List.append_eq_nil_iff.1 (List.isEmpty_iff.1 hempty)
      simp
    next => simp [templates]

end TemplateGroup

/-! ## The table keeps its live templates -/

namespace TemplateTable

variable {P : Type}

/-- **The table keeps a list of live templates**, newest first. -/
structure Keeps (t : TemplateTable P) (dup : Bool) (live : List Template) : Prop where
  /-- Duplicates are allowed or not, as when the table was made. -/
  dup_eq : t.allowDuplicates = dup
  /-- The groups are in order. -/
  filed : TemplateGroup.Filed t.groups
  /-- The templates of the groups are the live ones. -/
  perm : live.Perm t.templates
  /-- A live template is what its text compiles to. -/
  compiled : ∀ a ∈ live, Template.compile a.text = .ok a
  /-- The live templates were admitted. -/
  admitted : Template.Admitted dup live

theorem keeps_empty (dup : Bool) (base : Option String) :
    (empty dup base : TemplateTable P).Keeps dup [] :=
  ⟨rfl, TemplateGroup.filed_nil, List.Perm.refl _, fun _ ha => absurd ha List.not_mem_nil, .nil⟩

section Kept

variable {t : TemplateTable P} {dup : Bool} {live : List Template}

theorem Keeps.sound (h : t.Keeps dup live) : ∀ a ∈ live, a.Sound :=
  fun a ha => (Template.compile_sound (h.compiled a ha)).1

/-- The templates of the table are what their texts compile to. -/
theorem Keeps.templates_compiled (h : t.Keeps dup live) :
    ∀ a ∈ t.templates, Template.compile a.text = .ok a :=
  fun a ha => h.compiled a (h.perm.symm.subset ha)

theorem Keeps.templates_sound (h : t.Keeps dup live) : ∀ a ∈ t.templates, a.Sound :=
  fun a ha => h.sound a (h.perm.symm.subset ha)

/-- The templates that compete with one in the table are those among the live ones. -/
theorem Keeps.rivals_perm (h : t.Keeps dup live) (a : Template) :
    (Template.neighbours live a ++ [a]).Perm (t.rivals a ++ [a]) :=
  (h.perm.filter _).append_right [a]

/-- **A compiled template is let in when it is admissible with those that compete with it.** -/
theorem Keeps.checkGroup_rivals (h : t.Keeps dup live) {a : Template} (ha : a.Sound) :
    Template.checkGroup t.allowDuplicates (t.rivals a ++ [a]) = .ok ()
      ↔ Template.Admissible dup (Template.neighbours live a ++ [a]) := by
  have hlive : ∀ b ∈ Template.neighbours live a ++ [a], b.Sound := by
    intro b hb
    rcases List.mem_append.1 hb with hb | hb
    · exact h.sound b (List.mem_filter.1 hb).1
    · rw [List.mem_singleton.1 hb]
      exact ha
  have hfiled : ∀ b ∈ t.rivals a ++ [a], b.Sound :=
    fun b hb => hlive b ((h.rivals_perm a).symm.subset hb)
  rw [h.dup_eq, Template.checkGroup_eq_ok_iff hfiled]
  exact ⟨fun hok => hok.perm hfiled (h.rivals_perm a).symm,
    fun hok => hok.perm hlive (h.rivals_perm a)⟩

/-- What a registration comes to: the template that the text compiles to passes the check and is put
in its group. -/
theorem add_eq_ok_iff {text : String} {payload : P} {t' : TemplateTable P} :
    t.add text payload = .ok t' ↔ ∃ a, Template.compile text = .ok a
      ∧ Template.checkGroup t.allowDuplicates (t.rivals a ++ [a]) = .ok ()
      ∧ { t with groups := TemplateGroup.place ⟨a, payload⟩ t.groups } = t' := by
  constructor
  · intro hadd
    obtain ⟨a, ha, hadd⟩ := ok_of_bind_eq_ok hadd
    obtain ⟨⟨⟩, hcheck, hadd⟩ := ok_of_bind_eq_ok hadd
    exact ⟨a, ha, hcheck, Except.ok.inj hadd⟩
  · rintro ⟨a, ha, hcheck, rfl⟩
    rw [add_of_compile ha, addTemplate, hcheck]
    rfl

/-- **A registration puts a template in front of the live ones.** -/
theorem Keeps.add (h : t.Keeps dup live) {text : String} {payload : P} {t' : TemplateTable P}
    (hadd : t.add text payload = .ok t') :
    ∃ a, Template.compile text = .ok a ∧ t'.Keeps dup (a :: live) := by
  obtain ⟨a, ha, hcheck, rfl⟩ := add_eq_ok_iff.1 hadd
  obtain ⟨hsound, htext⟩ := Template.compile_sound ha
  refine ⟨a, ha, h.dup_eq, TemplateGroup.filed_place h.filed _, ?_, fun b hb => ?_, ?_⟩
  · exact (h.perm.cons a).trans (TemplateGroup.templates_place ⟨a, payload⟩ t.groups).symm
  · rcases List.mem_cons.1 hb with rfl | hb
    · rw [htext]
      exact ha
    · exact h.compiled b hb
  · exact .cons ((h.checkGroup_rivals hsound).1 hcheck) h.admitted

/-- **What registers**: a text that compiles to a template admissible with those that compete with
it. -/
theorem Keeps.add_ok_iff (h : t.Keeps dup live) {text : String} {payload : P} :
    (∃ t', t.add text payload = .ok t') ↔ ∃ a, Template.compile text = .ok a
      ∧ Template.Admissible dup (Template.neighbours live a ++ [a]) := by
  constructor
  · rintro ⟨t', hadd⟩
    obtain ⟨a, ha, hcheck, -⟩ := add_eq_ok_iff.1 hadd
    exact ⟨a, ha, (h.checkGroup_rivals (Template.compile_sound ha).1).1 hcheck⟩
  · rintro ⟨a, ha, hadmissible⟩
    have hcheck := (h.checkGroup_rivals (Template.compile_sound ha).1).2 hadmissible
    exact ⟨_, add_eq_ok_iff.2 ⟨a, ha, hcheck, rfl⟩⟩

/-- What a removal that finds something comes to: the first entry written as the text goes from the
group of its shape. -/
theorem remove?_eq_some {text : String} {t' : TemplateTable P}
    (h : t.remove? text = .ok (some t')) :
    ∃ a g, Template.compile text = .ok a ∧ g ∈ t.groups ∧ g.entries.any (isWritten text)
      ∧ t' = { t with groups :=
          TemplateGroup.replace g.shape (g.entries.eraseP (isWritten text)) t.groups } := by
  obtain ⟨a, ha, h⟩ := ok_of_bind_eq_ok h
  split at h
  · cases h
  next g hfind =>
  split at h
  · cases h
  next hany =>
  obtain ⟨⟨⟩, -, h⟩ := ok_of_bind_eq_ok h
  cases h
  rw [Bool.not_eq_true', Bool.not_eq_false] at hany
  exact ⟨a, g, ha, List.mem_of_find?_eq_some hfind, hany, rfl⟩

/-- The entry that a removal takes, between those that it leaves. -/
theorem groups_of_remove? {text : String} {t' : TemplateTable P}
    (h : t.remove? text = .ok (some t')) :
    ∃ a g e l₁ l₂, Template.compile text = .ok a ∧ g ∈ t.groups ∧ g.entries = l₁ ++ e :: l₂
      ∧ e.template.text = text
      ∧ t' = { t with groups := TemplateGroup.replace g.shape (l₁ ++ l₂) t.groups } := by
  obtain ⟨a, g, ha, hg, hany, rfl⟩ := remove?_eq_some h
  obtain ⟨e₀, he₀, hwritten₀⟩ := List.any_eq_true.1 hany
  obtain ⟨e, l₁, l₂, -, hwritten, hentries, herase⟩ := List.exists_of_eraseP he₀ hwritten₀
  refine ⟨a, g, e, l₁, l₂, ha, hg, hentries, of_decide_eq_true hwritten, ?_⟩
  rw [herase]

/-- **A removal takes one live template out.** -/
theorem Keeps.remove? (h : t.Keeps dup live) {text : String} {t' : TemplateTable P}
    (hremove : t.remove? text = .ok (some t')) :
    ∃ a live', Template.compile text = .ok a ∧ live.Perm (a :: live') ∧ t'.Keeps dup live' := by
  obtain ⟨a, g, e, l₁, l₂, ha, hg, hentries, htext, rfl⟩ := groups_of_remove? hremove
  obtain ⟨xs, ys, hold, hnew⟩ := TemplateGroup.templates_taken h.filed hg hentries
  have hperm : live.Perm (e.template :: (xs ++ ys)) := by
    refine h.perm.trans ?_
    unfold templates
    rw [hold]
    exact List.perm_middle
  -- the entry that goes was written as the text, so its template is the one the text compiles to
  have he : a = e.template := by
    have hcompiled := h.compiled e.template (hperm.symm.subset List.mem_cons_self)
    rw [htext, ha] at hcompiled
    exact Except.ok.inj hcompiled
  obtain ⟨live', hlive', hsub⟩ :=
    List.exists_perm_sublist (List.sublist_cons_self e.template (xs ++ ys)) hperm.symm
  refine ⟨a, live', ha, ?_, h.dup_eq, ?_, ?_, ?_, ?_⟩
  · rw [he]
    exact hperm.trans (hlive'.symm.cons _)
  · refine TemplateGroup.filed_replace h.filed hg ?_
    rw [hentries]
    exact (List.Sublist.refl l₁).append (List.sublist_cons_self e l₂)
  · unfold templates
    rw [hnew]
    exact hlive'
  · exact fun b hb => h.compiled b (hsub.subset hb)
  · exact h.admitted.sublist hsub

/-- **Live templates that all compete with each other are admissible.** -/
theorem Keeps.admissible (h : t.Keeps dup live) {us : List Template}
    (hus : us.Sublist t.templates) (hshares : ∀ a ∈ us, ∀ b ∈ us, a.sharesShape b) :
    Template.Admissible dup us := by
  obtain ⟨vs, hperm, hsub⟩ := List.exists_perm_sublist hus h.perm.symm
  have hs : ∀ a ∈ vs, a.Sound := fun a ha => h.sound a (hsub.subset ha)
  refine ((h.admitted.sublist hsub).admissible hs ?_).perm hs hperm
  exact fun a ha b hb => hshares a (hperm.subset ha) b (hperm.subset hb)

/-- **A live template can be removed**: what is left of its group passes the check. -/
theorem Keeps.remove?_eq_ok (h : t.Keeps dup live) {a : Template} (ha : a ∈ live) :
    ∃ t', t.remove? a.text = .ok (some t') := by
  obtain ⟨g, hg, hag⟩ := List.mem_flatMap.1 (h.perm.subset ha)
  obtain ⟨e, he, rfl⟩ := List.mem_map.1 hag
  have hshape : e.template.shape = g.shape := h.filed.shape_eq g hg _ hag
  have hany : g.entries.any (isWritten e.template.text) = true :=
    List.any_eq_true.2 ⟨e, he, decide_eq_true rfl⟩
  -- what is left of the group is of one shape, so it was admitted as a whole
  have hrest : ((g.entries.eraseP (isWritten e.template.text)).map
      TemplateEntry.template).Sublist g.templates := List.eraseP_sublist.map _
  have hsub := hrest.trans (TemplateGroup.templates_sublist hg)
  have hcheck : Template.checkGroup t.allowDuplicates
      ((g.entries.eraseP (isWritten e.template.text)).map TemplateEntry.template) = .ok () := by
    rw [h.dup_eq]
    refine (Template.checkGroup_eq_ok_iff ?_).2 (h.admissible hsub (fun b hb c hc => ?_))
    · exact fun b hb => h.templates_sound b (hsub.subset hb)
    · refine Template.sharesShape_of_shape ?_
      rw [h.filed.shape_eq g hg b (hrest.subset hb), h.filed.shape_eq g hg c (hrest.subset hc)]
  unfold TemplateTable.remove?
  rw [h.compiled e.template ha]
  dsimp only [bind, Except.bind]
  rw [TemplateGroup.find?_shape h.filed hg hshape.symm]
  dsimp only
  rw [hany, hcheck]
  exact ⟨_, rfl⟩

/-- A table that was cleared keeps no template. -/
theorem Keeps.cleared (h : t.Keeps dup live) : t.cleared.Keeps dup [] :=
  ⟨h.dup_eq, TemplateGroup.filed_nil, List.Perm.refl _, fun _ ha => absurd ha List.not_mem_nil,
    .nil⟩

end Kept

/-! ## Runs -/

/-- **A call changes the table by a registration, a removal or a clearing**, if at all. -/
theorem answer_preserves {I : TemplateTable P → Prop}
    (hadd : ∀ t text payload t', I t → t.add text payload = .ok t' → I t')
    (hremove : ∀ t text t', I t → t.remove? text = .ok (some t') → I t')
    (hclear : ∀ t, I t → I t.cleared) (t : TemplateTable P) (c : TemplateCall P) (ht : I t) :
    I (t.answer c).2 := by
  have hofAdd : ∀ r : Except DispatchError (TemplateTable P), (∀ t', r = .ok t' → I t')
      → I (Reply.ofAdd (A := TemplateMatch P) t r).2 := by
    intro r hr
    cases r with
    | error e => exact ht
    | ok t' => exact hr t' rfl
  have hofRemove : ∀ r : Except DispatchError (Option (TemplateTable P)),
      (∀ t', r = .ok (some t') → I t') → I (Reply.ofRemove (A := TemplateMatch P) t r).2 := by
    intro r hr
    rcases r with e | _ | t'
    · exact ht
    · exact ht
    · exact hr t' rfl
  cases c with
  | add text payload =>
    rw [answer]
    exact hofAdd _ (fun t' h => hadd t text payload t' ht h)
  | addFilter f payload =>
    rw [answer]
    refine hofAdd _ (fun t' h => ?_)
    obtain ⟨text, -, h⟩ := ok_of_bind_eq_ok h
    exact hadd t text payload t' ht h
  | remove text =>
    rw [answer]
    exact hofRemove _ (fun t' h => hremove t text t' ht h)
  | removeFilter f =>
    rw [answer]
    refine hofRemove _ (fun t' h => ?_)
    obtain ⟨text, -, h⟩ := ok_of_bind_eq_ok h
    exact hremove t text t' ht h
  | clear => exact hclear t ht
  | request path query => exact ht
  | requestOf r => exact ht
  | single path query => exact ht

/-- **Every run leaves a table that keeps some live templates.** -/
theorem keeps_run (dup : Bool) (base : Option String) (calls : List (TemplateCall P))
    (m : Metrics) :
    ∃ live, (((empty dup base : TemplateTable P).run calls).result m).2.Keeps dup live := by
  rw [result_run]
  refine runAll_preserves (I := fun t : TemplateTable P => ∃ live, t.Keeps dup live) ?_
    ⟨[], keeps_empty dup base⟩ calls
  refine answer_preserves (fun t text payload t' h hadd => ?_) (fun t text t' h hremove => ?_)
    (fun t h => ?_)
  · obtain ⟨live, h⟩ := h
    obtain ⟨a, -, h'⟩ := h.add hadd
    exact ⟨a :: live, h'⟩
  · obtain ⟨live, h⟩ := h
    obtain ⟨a, live', -, -, h'⟩ := h.remove? hremove
    exact ⟨live', h'⟩
  · obtain ⟨live, h⟩ := h
    exact ⟨[], h.cleared⟩

end TemplateTable

end Switchboard
