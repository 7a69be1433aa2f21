import Switchboard.Proofs.TemplateDispatch
import Switchboard.Proofs.TemplateRemoval

/-!
# The template table is a roll

What the template table is meant to keep can be said without groups and positions. It is a **roll**:
the live registrations in the order in which they came, and for every shape the registration at which
it last came into being. A shape comes into being with a registration that finds no live one of it,
and is gone with its last. The groups of the table are then no more than a way of reading the roll:
the shapes of the live registrations by their coming into being (`Roll.shapes`), and to each shape its
registrations (`Roll.members`). A shape whose first registration is removed keeps its place as long as
it has another, so the order of the groups is not that of the first live registrations.

A request is answered from the roll registration by registration, and each has at most one answer
(`Roll.reply?`): the path lies below the base, the template matches what is left of it, and the
template is chosen among those of its shape that match it too (`Template.isChosen`). It is the last of
these that makes an answer depend on other registrations.

The table and the roll go along together (`TemplateTable.Follows`). The steps are said once, as what
they do to the groups: a registration lets them grow in one place (`TemplateGroup.Grown`), and a
removal takes the first entry of a text out (`TemplateGroup.Shrunk`).
-/

namespace Switchboard

variable {P : Type}

/-! ## The roll -/

/-- **The roll of live registrations.** -/
structure Roll (P : Type) where
  /-- How many registrations there have been. -/
  now : Nat := 0
  /-- The live registrations, in the order in which they came. -/
  live : List (TemplateEntry P) := []
  /-- The registration at which a shape last came into being. -/
  born : String → Nat := fun _ => 0

namespace Roll

/-- The live registrations of a shape. -/
def members (r : Roll P) (shape : String) : List (TemplateEntry P) :=
  r.live.filter fun e => e.template.shape = shape

/-- **The shapes of the live registrations**, by their coming into being. -/
def shapes (r : Roll P) : List String :=
  (distinct (r.live.map fun e => e.template.shape)).mergeSort fun s s' => r.born s ≤ r.born s'

/-- The roll read shape by shape. -/
def groups (r : Roll P) : List (TemplateGroup P) :=
  r.shapes.map fun s => ⟨s, r.members s⟩

/-- The live registrations, shape by shape. -/
def entries (r : Roll P) : List (TemplateEntry P) :=
  r.groups.flatMap TemplateGroup.entries

/-- **A registration comes** behind the others. Its shape comes into being now, unless there is a live
registration of it. -/
def enrol (r : Roll P) (e : TemplateEntry P) : Roll P where
  now := r.now + 1
  live := r.live ++ [e]
  born s := if s = e.template.shape ∧ (r.members s).isEmpty then r.now else r.born s

/-- **The earliest registration of exactly a text goes.** -/
def strike (r : Roll P) (text : String) : Roll P :=
  { r with live := r.live.eraseP (TemplateTable.isWritten text) }

/-- All live registrations of a text are of one shape. -/
def OneShape (r : Roll P) (text : String) : Prop :=
  ∀ e ∈ r.live, ∀ e' ∈ r.live, TemplateTable.isWritten text e → TemplateTable.isWritten text e'
    → e.template.shape = e'.template.shape

end Roll

/-! ## Reading the roll -/

/-- The tiers that are more specific than one. -/
def Tier.finer : Tier → List Tier
  | .strict => []
  | .interesting => [.strict]
  | .plain => [.strict, .interesting]

/-- **Whether a template is chosen** among its rivals: some tier admits it, and no more specific tier
admits any of them. -/
def Template.isChosen (rivals : List Template) (query : Query) (a : Template) : Bool :=
  Tier.all.any fun tier =>
    tier.admits query a && tier.finer.all fun finer => rivals.all fun b => !finer.admits query b

/-- **What is left of a path below a base**: the path starts with the segments of the base, up to
ASCII case. -/
def Path.under (base path : List String) : Option (List String) :=
  if (path.take base.length).map Ascii.upper = base.map Ascii.upper then
    some (path.drop base.length)
  else none

namespace Roll

/-- The live templates of a shape that match what is left of a path. -/
def rivals (r : Roll P) (rest : List String) (shape : String) : List Template :=
  ((r.members shape).map TemplateEntry.template).filter fun a => (a.matchPath rest).isSome

/-- **The answer of a live registration** to a path and a query, if it has one. -/
def reply? (r : Roll P) (base : List String) (path : String) (query : Query)
    (e : TemplateEntry P) : Option (TemplateMatch P) := do
  let rest ← Path.under base (Path.decodedSegments path)
  let bindings ← e.template.matchPath rest
  if Template.isChosen (r.rivals rest e.template.shape) query e.template then
    some {
      payload := e.payload
      template := e.template.text
      bindings := bindings ++ e.template.queryBindings query }
  else none

/-- **Which live registrations answer**: the path lies below the base, the template matches what is
left of it, and it is admitted by the most specific of the tiers that admit a template of its shape
that matches. -/
def Answers (r : Roll P) (base : List String) (path : String) (query : Query)
    (e : TemplateEntry P) : Prop :=
  ∃ rest, Path.under base (Path.decodedSegments path) = some rest
    ∧ (e.template.matchPath rest).isSome = true
    ∧ ∃ tier : Tier, tier.admits query e.template = true
      ∧ ∀ finer ∈ tier.finer, ∀ e' ∈ r.members e.template.shape,
          (e'.template.matchPath rest).isSome = true → finer.admits query e'.template = false

/-- **The answers to a path and a query**: those that the live registrations have. -/
def scan (r : Roll P) (base : List String) (path : String) (query : Query) :
    List (TemplateMatch P) :=
  r.entries.filterMap (r.reply? base path query)

/-! ## Keeping the roll -/

/-- A text is registered when it compiles and passes the check with the live templates that compete
with it. -/
def add (dup : Bool) (r : Roll P) (text : String) (payload : P) :
    Except DispatchError (Roll P) := do
  let a ← Template.compile text
  Template.checkGroup dup (Template.neighbours (r.entries.map TemplateEntry.template) a ++ [a])
  return r.enrol ⟨a, payload⟩

/-- A text is removed when it compiles and was registered. -/
def remove? (r : Roll P) (text : String) : Except DispatchError (Option (Roll P)) := do
  let _ ← Template.compile text
  return if r.live.any (TemplateTable.isWritten text) then some (r.strike text) else none

/-- **What a call replies and leaves**, as the roll has it. -/
def answer (dup : Bool) (base : List String) (r : Roll P) :
    TemplateCall P → Reply (TemplateMatch P) × Roll P
  | .add text payload => Reply.ofAdd r (r.add dup text payload)
  | .addFilter f payload => Reply.ofAdd r (f.forTemplates >>= fun text => r.add dup text payload)
  | .remove text => Reply.ofRemove r (r.remove? text)
  | .removeFilter f => Reply.ofRemove r (f.forTemplates >>= r.remove?)
  | .clear => (.done, { r with live := [] })
  | .request path query => (.found (r.scan base path query), r)
  | .requestOf q => (.found (r.scan base q.destination.path q.query), r)
  | .single path query => (Reply.ofSingle (single (r.scan base path query)), r)

end Roll

/-! ## What changes on the roll -/

/-- An entry is written as a text when its template is. -/
theorem TemplateTable.isWritten_iff {text : String} {e : TemplateEntry P} :
    isWritten text e = true ↔ e.template.text = text :=
  decide_eq_true_iff

namespace Roll

section Changes

variable {r : Roll P} {s text : String} {e : TemplateEntry P}

theorem mem_members :
    e ∈ r.members s ↔ e ∈ r.live ∧ e.template.shape = s := by
  unfold members
  rw [List.mem_filter, decide_eq_true_eq]

/-- A shape has a live registration when it is the shape of one. -/
theorem members_ne_nil :
    r.members s ≠ [] ↔ s ∈ r.live.map fun e => e.template.shape := by
  rw [List.mem_map]
  constructor
  · intro hne
    obtain ⟨e, he⟩ := List.exists_mem_of_ne_nil _ hne
    exact ⟨e, mem_members.1 he⟩
  · rintro ⟨e, he⟩
    exact List.ne_nil_of_mem (mem_members.2 he)

/-- A registration joins those of its shape. -/
theorem members_enrol_self :
    (r.enrol e).members e.template.shape = r.members e.template.shape ++ [e] := by
  show (r.live ++ [e]).filter _ = r.live.filter _ ++ [e]
  rw [List.filter_append]
  simp

/-- A registration leaves those of other shapes. -/
theorem members_enrol_of_ne (hs : s ≠ e.template.shape) :
    (r.enrol e).members s = r.members s := by
  show (r.live ++ [e]).filter _ = r.live.filter _
  rw [List.filter_append]
  simp [hs.symm]

/-- A shape with a live registration came into being when it did before. -/
theorem born_enrol_of_members (hs : r.members s ≠ []) :
    (r.enrol e).born s = r.born s :=
  if_neg (fun h => hs (List.isEmpty_iff.1 h.2))

/-- A shape without one comes into being. -/
theorem born_enrol_of_nil (hs : r.members e.template.shape = []) :
    (r.enrol e).born e.template.shape = r.now :=
  if_pos ⟨rfl, List.isEmpty_iff.2 hs⟩

/-- **A removal takes the earliest registration of a text out of those of its shape.** -/
theorem members_strike (hone : r.OneShape text) (s : String) :
    (r.strike text).members s = (r.members s).eraseP (TemplateTable.isWritten text) :=
  filter_eraseP_comm hone s

end Changes

end Roll

/-! ## What a step does to the groups -/

namespace TemplateGroup

/-- **Groups grow by an entry**: it is put behind those of its shape, or starts a group of its own
behind the others if there is none. -/
inductive Grown (e : TemplateEntry P) : List (TemplateGroup P) → List (TemplateGroup P) → Prop where
  /-- There is a group of its shape. -/
  | member {l r : List (TemplateGroup P)} {g : TemplateGroup P}
      (shape_eq : g.shape = e.template.shape) :
      Grown e (l ++ g :: r) (l ++ { g with entries := g.entries ++ [e] } :: r)
  /-- There is none. -/
  | group {gs : List (TemplateGroup P)} (fresh : ∀ g ∈ gs, g.shape ≠ e.template.shape) :
      Grown e gs (gs ++ [⟨e.template.shape, [e]⟩])

/-- **Groups shrink by a text**: the first entry that was written as the text is taken out of a group,
and the group goes if it was the last. -/
inductive Shrunk (text : String) :
    List (TemplateGroup P) → List (TemplateGroup P) → Prop where
  /-- Others are left. -/
  | member {l r : List (TemplateGroup P)} {g : TemplateGroup P}
      {es₁ es₂ : List (TemplateEntry P)} {e : TemplateEntry P}
      (entries_eq : g.entries = es₁ ++ e :: es₂) (written : e.template.text = text)
      (earliest : ∀ e' ∈ es₁, e'.template.text ≠ text) (left : es₁ ++ es₂ ≠ []) :
      Shrunk text (l ++ g :: r) (l ++ { g with entries := es₁ ++ es₂ } :: r)
  /-- It was the last. -/
  | group {l r : List (TemplateGroup P)} {g : TemplateGroup P} {e : TemplateEntry P}
      (entries_eq : g.entries = [e]) (written : e.template.text = text) :
      Shrunk text (l ++ g :: r) (l ++ r)

/-- Groups grow behind a group of another shape. -/
theorem Grown.cons {e : TemplateEntry P} {gs gs' : List (TemplateGroup P)} (h : Grown e gs gs')
    {g : TemplateGroup P} (hg : g.shape ≠ e.template.shape) : Grown e (g :: gs) (g :: gs') := by
  cases h with
  | @member l _ _ hshape => exact .member (l := g :: l) hshape
  | group hfresh =>
    refine .group (fun g' hg' => ?_)
    rcases List.mem_cons.1 hg' with rfl | hg'
    · exact hg
    · exact hfresh g' hg'

/-- **Putting an entry in its group** lets the groups grow by it. -/
theorem grown_place (e : TemplateEntry P) (gs : List (TemplateGroup P)) :
    Grown e gs (place e gs) := by
  induction gs with
  | nil => exact .group (fun g hg => absurd hg List.not_mem_nil)
  | cons g gs ih =>
    unfold place
    split
    next hshape => exact .member (l := []) hshape
    next hshape => exact ih.cons hshape

/-- **Taking the first entry of a text out of its group** lets the groups shrink by it. -/
theorem shrunk_replace {gs : List (TemplateGroup P)} {g : TemplateGroup P} (h : Filed gs)
    (hg : g ∈ gs) {text : String} (hany : g.entries.any (TemplateTable.isWritten text)) :
    Shrunk text gs
      (replace g.shape (g.entries.eraseP (TemplateTable.isWritten text)) gs) := by
  obtain ⟨l, r, rfl⟩ := List.append_of_mem hg
  obtain ⟨e₀, he₀, hwritten₀⟩ := List.any_eq_true.1 hany
  obtain ⟨e, es₁, es₂, hearlier, hwritten, hentries, hrest⟩ := List.exists_of_eraseP he₀ hwritten₀
  have htext : e.template.text = text := TemplateTable.isWritten_iff.1 hwritten
  rw [hrest, replace_eq h, List.append_assoc]
  split
  next hempty =>
    obtain ⟨rfl, rfl⟩ := List.append_eq_nil_iff.1 (List.isEmpty_iff.1 hempty)
    exact .group hentries htext
  next hne =>
    refine .member hentries htext (fun e' he' heq => ?_) (fun hnil => hne (hnil ▸ rfl))
    exact hearlier e' he' (TemplateTable.isWritten_iff.2 heq)

end TemplateGroup

/-! ## Groups that are the roll -/

namespace Roll

/-- **The groups are those of the roll**: in the order of their coming into being, one to each shape
that has a live registration, with its registrations. -/
structure Reads (r : Roll P) (gs : List (TemplateGroup P)) : Prop where
  /-- The groups came into being one after another. -/
  ordered : (gs.map TemplateGroup.shape).Pairwise fun s s' => r.born s < r.born s'
  /-- They have all come into being. -/
  past : ∀ s ∈ gs.map TemplateGroup.shape, r.born s < r.now
  /-- The shapes are those that have a live registration. -/
  listed : ∀ s, s ∈ gs.map TemplateGroup.shape ↔ r.members s ≠ []
  /-- A group holds the live registrations of its shape, in order. -/
  members : ∀ g ∈ gs, g.entries = r.members g.shape

theorem reads_nil {r : Roll P} (h : r.live = []) : r.Reads [] := by
  refine ⟨List.Pairwise.nil, fun s hs => absurd hs List.not_mem_nil, fun s => ?_,
    fun g hg => absurd hg List.not_mem_nil⟩
  rw [members_ne_nil, h]
  exact Iff.rfl

section Read

variable {r : Roll P} {gs gs' : List (TemplateGroup P)}

/-- No two groups have one shape. -/
theorem Reads.nodup (h : r.Reads gs) : (gs.map TemplateGroup.shape).Nodup := by
  refine h.ordered.imp ?_
  rintro s _ hlt rfl
  exact Nat.lt_irrefl _ hlt

/-- A group is of another shape than the others. -/
theorem Reads.shape_ne {l rest : List (TemplateGroup P)} {g g' : TemplateGroup P}
    (h : r.Reads (l ++ g :: rest)) (hg' : g' ∈ l ++ rest) : g'.shape ≠ g.shape := by
  have hnodup := (List.perm_middle.map TemplateGroup.shape).nodup_iff.1 h.nodup
  exact fun heq => (List.nodup_cons.1 hnodup).1 (heq ▸ List.mem_map_of_mem hg')

/-- No two groups came into being at once. -/
theorem Reads.born_inj (h : r.Reads gs) {s s' : String} (hs : s ∈ gs.map TemplateGroup.shape)
    (hs' : s' ∈ gs.map TemplateGroup.shape) (heq : r.born s = r.born s') : s = s' :=
  List.inj_on_of_nodup_map (List.pairwise_map.2 (h.ordered.imp Nat.ne_of_lt)) hs hs' heq

/-- **The groups are the roll read shape by shape.** -/
theorem Reads.groups_eq (h : r.Reads gs) : gs = r.groups := by
  have hshapes : gs.map TemplateGroup.shape = r.shapes := by
    have hperm : (gs.map TemplateGroup.shape).Perm r.shapes := by
      refine List.Perm.trans ?_ (List.mergeSort_perm _ _).symm
      refine (List.perm_ext_iff_of_nodup h.nodup (nodup_distinct _)).2 (fun s => ?_)
      rw [h.listed, members_ne_nil, mem_distinct]
    have hsorted : r.shapes.Pairwise fun s s' => r.born s ≤ r.born s' := by
      refine (List.pairwise_mergeSort ?_ ?_ _).imp of_decide_eq_true
      · exact fun a b c hab hbc => decide_eq_true
          (Nat.le_trans (of_decide_eq_true hab) (of_decide_eq_true hbc))
      · exact fun a b => by simpa using Nat.le_total (r.born a) (r.born b)
    -- no two shapes came into being at once, so sorting leaves no choice
    refine hperm.eq_of_pairwise (fun s s' hs hs' hle hle' => ?_) (h.ordered.imp Nat.le_of_lt) hsorted
    exact h.born_inj hs (hperm.symm.subset hs') (Nat.le_antisymm hle hle')
  have hgroup : ∀ g ∈ gs, g = ⟨g.shape, r.members g.shape⟩ := fun g hg => h.members g hg ▸ rfl
  show gs = r.shapes.map _
  rw [← hshapes, List.map_map]
  exact (List.map_id gs).symm.trans (List.map_congr_left hgroup)

/-- **The entries of one group change**: the groups are those of the roll again if only its shape has
other registrations than before. -/
theorem Reads.update {l rest : List (TemplateGroup P)} {g : TemplateGroup P}
    (h : r.Reads (l ++ g :: rest)) {r' : Roll P} {es : List (TemplateEntry P)}
    (hnow : r.now ≤ r'.now) (hborn : ∀ s, r.members s ≠ [] → r'.born s = r.born s)
    (hes : r'.members g.shape = es) (hne : es ≠ [])
    (hother : ∀ s, s ≠ g.shape → r'.members s = r.members s) :
    r'.Reads (l ++ { g with entries := es } :: rest) := by
  have hshapes : (l ++ { g with entries := es } :: rest).map TemplateGroup.shape
      = (l ++ g :: rest).map TemplateGroup.shape := by simp
  have hborn' : ∀ s ∈ (l ++ g :: rest).map TemplateGroup.shape, r'.born s = r.born s :=
    fun s hs => hborn s ((h.listed s).1 hs)
  have hg : g.shape ∈ (l ++ g :: rest).map TemplateGroup.shape :=
    List.mem_map_of_mem (List.mem_append_right l List.mem_cons_self)
  refine ⟨?_, ?_, fun s => ?_, fun g' hg' => ?_⟩
  · rw [hshapes]
    refine h.ordered.imp_of_mem (fun {s s'} hs hs' hlt => ?_)
    rw [hborn' s hs, hborn' s' hs']
    exact hlt
  · rw [hshapes]
    intro s hs
    rw [hborn' s hs]
    exact Nat.lt_of_lt_of_le (h.past s hs) hnow
  · rw [hshapes]
    by_cases hs : s = g.shape
    · subst hs
      exact ⟨fun _ => hes ▸ hne, fun _ => hg⟩
    · rw [h.listed, hother s hs]
  · rcases List.mem_cons.1 (List.perm_middle.subset hg') with rfl | hg'
    · exact hes.symm
    · rw [hother g'.shape (h.shape_ne hg')]
      exact h.members g' (List.perm_middle.symm.subset (List.mem_cons_of_mem g hg'))

/-- **Groups that grow go along with a registration.** -/
theorem Reads.grown (h : r.Reads gs) {e : TemplateEntry P} (hg : TemplateGroup.Grown e gs gs') :
    (r.enrol e).Reads gs' := by
  cases hg with
  | @member l rest g hshape =>
    have hmem : g ∈ l ++ g :: rest := List.mem_append_right l List.mem_cons_self
    refine h.update (Nat.le_succ r.now) (fun s hs => born_enrol_of_members hs) ?_ (by simp) ?_
    · rw [hshape, members_enrol_self, ← hshape, h.members g hmem]
    · rw [hshape]
      exact fun s hs => members_enrol_of_ne hs
  | group hfresh =>
    -- the shape has no live registration, and comes into being after all others
    have hnew : r.members e.template.shape = [] := by
      by_contra hne
      obtain ⟨g, hg, hshape⟩ := List.mem_map.1 ((h.listed _).2 hne)
      exact hfresh g hg hshape
    have hold : ∀ s ∈ gs.map TemplateGroup.shape, s ≠ e.template.shape := by
      rintro s hs rfl
      exact (h.listed _).1 hs hnew
    have hborn : ∀ s ∈ gs.map TemplateGroup.shape, (r.enrol e).born s = r.born s :=
      fun s hs => born_enrol_of_members ((h.listed s).1 hs)
    have hshapes : (gs ++ [⟨e.template.shape, [e]⟩] : List (TemplateGroup P)).map
        TemplateGroup.shape = gs.map TemplateGroup.shape ++ [e.template.shape] := List.map_append
    refine ⟨?_, ?_, fun s => ?_, fun g hg => ?_⟩
    · rw [hshapes, List.pairwise_append]
      refine ⟨h.ordered.imp_of_mem (fun {s s'} hs hs' hlt => ?_), List.pairwise_singleton _ _, ?_⟩
      · rw [hborn s hs, hborn s' hs']
        exact hlt
      · intro s hs s' hs'
        rw [List.mem_singleton.1 hs', hborn s hs, born_enrol_of_nil hnew]
        exact h.past s hs
    · rw [hshapes]
      intro s hs
      rcases List.mem_append.1 hs with hs | hs
      · rw [hborn s hs]
        exact Nat.lt_succ_of_lt (h.past s hs)
      · rw [List.mem_singleton.1 hs, born_enrol_of_nil hnew]
        exact Nat.lt_succ_self r.now
    · rw [hshapes, List.mem_append, List.mem_singleton]
      by_cases hs : s = e.template.shape
      · subst hs
        rw [members_enrol_self]
        simp
      · rw [h.listed, members_enrol_of_ne hs]
        simp [hs]
    · rcases List.mem_append.1 hg with hg | hg
      · rw [members_enrol_of_ne (hold g.shape (List.mem_map_of_mem hg))]
        exact h.members g hg
      · rw [List.mem_singleton.1 hg]
        show [e] = (r.enrol e).members e.template.shape
        rw [members_enrol_self, hnew]
        rfl

/-- **Groups that shrink go along with a removal.** -/
theorem Reads.shrunk (h : r.Reads gs) {text : String} (hg : TemplateGroup.Shrunk text gs gs')
    (hone : r.OneShape text) : (r.strike text).Reads gs' := by
  have hother : ∀ {g : TemplateGroup P} {e : TemplateEntry P}, g ∈ gs → e ∈ g.entries
      → e.template.text = text → ∀ s, s ≠ g.shape → (r.strike text).members s = r.members s := by
    intro g e hg he htext s hs
    rw [members_strike hone, List.eraseP_of_forall_not]
    intro e' he' hwritten
    obtain ⟨hlive, hshape⟩ := mem_members.1 (h.members g hg ▸ he)
    obtain ⟨hlive', hshape'⟩ := mem_members.1 he'
    refine hs (hshape'.symm.trans ?_)
    rw [hone e' hlive' e hlive hwritten (TemplateTable.isWritten_iff.2 htext), hshape]
  cases hg with
  | @member l rest g es₁ es₂ e hentries htext hearlier hleft =>
    have hmem : g ∈ l ++ g :: rest := List.mem_append_right l List.mem_cons_self
    refine h.update (Nat.le_refl r.now) (fun _ _ => rfl) ?_ hleft
      (hother hmem (hentries ▸ List.mem_append_right es₁ List.mem_cons_self) htext)
    rw [members_strike hone, ← h.members g hmem, hentries, List.eraseP_append_right,
      List.eraseP_cons_of_pos (TemplateTable.isWritten_iff.2 htext)]
    exact fun e' he' hwritten => hearlier e' he' (TemplateTable.isWritten_iff.1 hwritten)
  | @group l rest g e hentries htext =>
    have hmem : g ∈ l ++ g :: rest := List.mem_append_right l List.mem_cons_self
    have hgone : (r.strike text).members g.shape = [] := by
      rw [members_strike hone, ← h.members g hmem, hentries,
        List.eraseP_cons_of_pos (TemplateTable.isWritten_iff.2 htext)]
    have hstay := hother hmem (hentries ▸ List.mem_cons_self) htext
    have hsub : (l ++ rest).Sublist (l ++ g :: rest) :=
      (List.Sublist.refl l).append (List.sublist_cons_self g rest)
    refine ⟨h.ordered.sublist (hsub.map _), fun s hs => h.past s ((hsub.map _).subset hs),
      fun s => ?_, fun g' hg' => ?_⟩
    · by_cases hs : s = g.shape
      · subst hs
        refine ⟨fun hs => ?_, fun hne => absurd hgone hne⟩
        obtain ⟨g', hg', hshape⟩ := List.mem_map.1 hs
        exact absurd hshape (h.shape_ne hg')
      · rw [hstay s hs, ← h.listed]
        simp [hs]
    · rw [hstay g'.shape (h.shape_ne hg')]
      exact h.members g' (hsub.subset hg')

end Read

/-- Registrations that are all of some shapes, read shape by shape, are those registrations. -/
theorem flatMap_filter_perm {ss : List String} (hnodup : ss.Nodup) (es : List (TemplateEntry P))
    (hall : ∀ e ∈ es, e.template.shape ∈ ss) :
    (ss.flatMap fun s => es.filter fun e => e.template.shape = s).Perm es := by
  induction ss generalizing es with
  | nil =>
    rw [List.eq_nil_iff_forall_not_mem.2 (fun e he => List.not_mem_nil (hall e he))]
    exact List.Perm.refl _
  | cons s ss ih =>
    obtain ⟨hs, hnodup⟩ := List.nodup_cons.1 hnodup
    -- those of the first shape come first, and the others are read from what is left
    refine List.Perm.trans ?_ (List.filter_append_perm (fun e => e.template.shape = s) es)
    refine List.Perm.append_left _ (List.Perm.trans ?_ (ih hnodup _ ?_))
    · refine List.Perm.of_eq (List.flatMap_congr (fun s' hs' => ?_))
      rw [List.filter_filter]
      refine List.filter_congr (fun e _ => ?_)
      have hne : e.template.shape = s' → e.template.shape ≠ s := by
        rintro rfl rfl
        exact hs hs'
      by_cases he : e.template.shape = s'
      · simp [he, he ▸ hne he]
      · simp [he]
    · intro e he
      obtain ⟨he, hne⟩ := List.mem_filter.1 he
      exact (List.mem_cons.1 (hall e he)).resolve_left (by simpa using hne)

/-- **The registrations shape by shape are the live ones.** -/
theorem entries_perm (r : Roll P) : r.entries.Perm r.live := by
  have hshapes : r.shapes.Perm (distinct (r.live.map fun e => e.template.shape)) :=
    List.mergeSort_perm _ _
  have hentries : r.entries = r.shapes.flatMap r.members := List.flatMap_map _ _ _
  rw [hentries]
  refine flatMap_filter_perm (hshapes.nodup_iff.2 (nodup_distinct _)) r.live (fun e he => ?_)
  exact hshapes.symm.subset (mem_distinct.2 (List.mem_map_of_mem he))

end Roll

/-! ## Answering from the roll -/

/-- The path below a base, read segment by segment. -/
theorem TemplateTable.below_eq_under (base path : List String) :
    below base path = Path.under base path := by
  induction base generalizing path with
  | nil => rfl
  | cons b base ih =>
    cases path with
    | nil => rfl
    | cons p path =>
      unfold below
      rw [ih]
      unfold Path.under Ascii.Same
      by_cases hp : Ascii.upper p = Ascii.upper b
      · simp [hp]
      · simp [hp]

/-- The first tier with a property has it, and no more specific tier does. -/
theorem Tier.find?_all_eq_some_iff {p : Tier → Bool} {tier : Tier} :
    Tier.all.find? p = some tier ↔ p tier = true ∧ ∀ finer ∈ tier.finer, p finer = false := by
  unfold Tier.all
  cases tier <;> cases hstrict : p .strict <;> cases hinteresting : p .interesting <;>
    simp [Tier.finer, hstrict, hinteresting]

/-- A template is chosen when some tier admits it and no more specific tier admits a rival. -/
theorem Template.isChosen_eq_true_iff {rivals : List Template} {query : Query} {a : Template} :
    isChosen rivals query a = true ↔ ∃ tier : Tier, tier.admits query a = true
      ∧ ∀ finer ∈ tier.finer, ∀ b ∈ rivals, finer.admits query b = false := by
  unfold isChosen
  rw [List.any_eq_true]
  refine exists_congr (fun tier => ?_)
  have hall : tier ∈ Tier.all := by cases tier <;> decide
  simp [hall]

namespace TemplateGroup

/-- **An entry that matches is chosen** when the tier of the group admits it. -/
theorem isChosen_iff {hits : List (TemplateEntry P × Bindings)} {query : Query}
    {hit : TemplateEntry P × Bindings} (hhit : hit ∈ hits) :
    Template.isChosen (hits.map fun h => h.1.template) query hit.1.template = true
      ↔ ∃ tier, tier? query hits = some tier ∧ tier.admits query hit.1.template = true := by
  rw [Template.isChosen_eq_true_iff]
  unfold tier?
  refine exists_congr (fun tier => ?_)
  rw [Tier.find?_all_eq_some_iff]
  constructor
  · rintro ⟨hadmits, hfiner⟩
    refine ⟨⟨List.any_eq_true.2 ⟨hit, hhit, hadmits⟩, fun finer hf => ?_⟩, hadmits⟩
    exact List.any_eq_false.2 (fun h hh => Bool.eq_false_iff.1
      (hfiner finer hf h.1.template (List.mem_map_of_mem hh)))
  · rintro ⟨⟨-, hfiner⟩, hadmits⟩
    refine ⟨hadmits, fun finer hf b hb => ?_⟩
    obtain ⟨h, hh, rfl⟩ := List.mem_map.1 hb
    exact Bool.eq_false_iff.2 (List.any_eq_false.1 (hfiner finer hf) h hh)

/-- **A group answers entry by entry.** -/
theorem matching_eq (g : TemplateGroup P) (rest : List String) (query : Query) :
    g.matching rest query = g.entries.filterMap fun e =>
      (e.template.matchPath rest).bind fun b =>
        if Template.isChosen (g.templates.filter fun a => (a.matchPath rest).isSome) query
            e.template then
          some (answer query (e, b))
        else none := by
  have hchosen : g.matching rest query = ((g.pathHits rest).filter fun h =>
      Template.isChosen ((g.pathHits rest).map fun h => h.1.template) query
        h.1.template).map (answer query) := by
    unfold matching
    dsimp only
    cases htier : tier? query (g.pathHits rest) with
    | none =>
      rw [List.filter_eq_nil_iff.2, List.map_nil]
      intro h hh hchosen
      obtain ⟨tier, hsome, -⟩ := (isChosen_iff hh).1 hchosen
      rw [htier] at hsome
      cases hsome
    | some tier =>
      refine congrArg (List.map (answer query)) (List.filter_congr (fun h hh => ?_))
      rw [Bool.eq_iff_iff, isChosen_iff hh, htier]
      simp
  rw [hchosen, templates_pathHits, pathHits, List.filter_filterMap, List.map_filterMap]
  refine List.filterMap_congr (fun e _ => ?_)
  cases e.template.matchPath rest with
  | none => rfl
  | some b =>
    show Option.map _ (Option.filter _ (some (e, b))) = _
    rw [Option.filter_some]
    split <;> simp_all

end TemplateGroup

/-- **The roll answers as its groups do**, one after another. -/
theorem Roll.scan_eq (r : Roll P) (base : List String) (path : String) (query : Query) :
    r.scan base path query
      = match Path.under base (Path.decodedSegments path) with
        | none => []
        | some rest => r.groups.flatMap fun g => g.matching rest query := by
  unfold scan entries
  rw [List.filterMap_flatMap]
  cases hunder : Path.under base (Path.decodedSegments path) with
  | none =>
    refine List.flatMap_eq_nil_iff.2 (fun g _ => List.filterMap_eq_nil_iff.2 (fun e _ => ?_))
    unfold reply?
    rw [hunder]
    rfl
  | some rest =>
    refine List.flatMap_congr (fun g hg => ?_)
    obtain ⟨s, -, rfl⟩ := List.mem_map.1 hg
    rw [TemplateGroup.matching_eq]
    refine List.filterMap_congr (fun e he => ?_)
    obtain ⟨-, rfl⟩ := mem_members.1 he
    unfold reply?
    rw [hunder]
    rfl

/-- **A live registration has an answer** exactly when it answers. -/
theorem Roll.isSome_reply?_iff (r : Roll P) (base : List String) (path : String) (query : Query)
    (e : TemplateEntry P) :
    (r.reply? base path query e).isSome = true ↔ r.Answers base path query e := by
  have hchosen : ∀ rest, Template.isChosen (r.rivals rest e.template.shape) query e.template = true
      ↔ ∃ tier : Tier, tier.admits query e.template = true
        ∧ ∀ finer ∈ tier.finer, ∀ e' ∈ r.members e.template.shape,
            (e'.template.matchPath rest).isSome = true
              → finer.admits query e'.template = false := by
    intro rest
    rw [Template.isChosen_eq_true_iff]
    unfold rivals
    simp
  unfold reply? Answers
  simp only [← hchosen]
  cases Path.under base (Path.decodedSegments path) with
  | none => simp
  | some rest =>
    cases hmatch : e.template.matchPath rest with
    | none => simp [hmatch]
    | some b => simp [hmatch]

/-! ## The table follows the roll -/

namespace TemplateTable

/-- **The table follows a roll**, below a base path. -/
structure Follows (t : TemplateTable P) (dup : Bool) (base : List String) (r : Roll P) : Prop where
  /-- The table keeps some live templates. -/
  keeps : ∃ live, t.Keeps dup live
  /-- The base path is the one the table was made with. -/
  base_eq : t.basePath = base
  /-- The groups are those of the roll. -/
  reads : r.Reads t.groups

theorem follows_empty (dup : Bool) (base : Option String) :
    (empty dup base : TemplateTable P).Follows dup ((base.map Path.decodedSegments).getD []) {} :=
  ⟨⟨[], keeps_empty dup base⟩, rfl, Roll.reads_nil rfl⟩

section Followed

variable {t : TemplateTable P} {dup : Bool} {base : List String} {r : Roll P}

/-- The templates of the table are those on the roll, shape by shape. -/
theorem Follows.templates_eq (h : t.Follows dup base r) :
    t.templates = r.entries.map TemplateEntry.template := by
  unfold templates Roll.entries
  rw [List.map_flatMap, h.reads.groups_eq]
  rfl

/-- A text is live when a registration on the roll was written as it. -/
theorem Follows.mem_texts_iff (h : t.Follows dup base r) {text : String} :
    text ∈ t.texts ↔ r.live.any (isWritten text) = true := by
  rw [mem_texts, h.templates_eq, List.any_eq_true]
  constructor
  · rintro ⟨a, ha, htext⟩
    obtain ⟨e, he, rfl⟩ := List.mem_map.1 ha
    exact ⟨e, r.entries_perm.subset he, isWritten_iff.2 htext⟩
  · rintro ⟨e, he, hwritten⟩
    exact ⟨e.template, List.mem_map_of_mem (r.entries_perm.symm.subset he),
      isWritten_iff.1 hwritten⟩

/-- A registration on the roll is of what its text compiles to. -/
theorem Follows.compile_eq (h : t.Follows dup base r) {text : String} {e : TemplateEntry P}
    (he : e ∈ r.live) (hwritten : isWritten text e = true) :
    Template.compile text = .ok e.template := by
  obtain ⟨live, hkeeps⟩ := h.keeps
  rw [← isWritten_iff.1 hwritten]
  refine hkeeps.templates_compiled e.template ?_
  rw [h.templates_eq]
  exact List.mem_map_of_mem (r.entries_perm.symm.subset he)

/-- All registrations of a text are of one shape. -/
theorem Follows.oneShape (h : t.Follows dup base r) (text : String) : r.OneShape text := by
  intro e he e' he' hwritten hwritten'
  have hcompile := h.compile_eq he hwritten
  rw [h.compile_eq he' hwritten', Except.ok.injEq] at hcompile
  rw [hcompile]

/-- **The table answers as the roll does.** -/
theorem Follows.matching_eq (h : t.Follows dup base r) (path : String) (query : Query) :
    t.matching path query = r.scan base path query := by
  rw [Roll.scan_eq, ← h.reads.groups_eq, ← below_eq_under, ← h.base_eq]
  rfl

/-- **A registration goes along.** -/
theorem Follows.add (h : t.Follows dup base r) (text : String) (payload : P) :
    Alike (fun t r => t.Follows dup base r) (t.add text payload) (r.add dup text payload) := by
  obtain ⟨live, hkeeps⟩ := h.keeps
  obtain rfl := hkeeps.dup_eq
  unfold Roll.add
  rw [← h.templates_eq]
  refine Alike.bind (fun a ha => Alike.bind (fun _ hcheck => .done ?_))
  obtain ⟨_, _, hkeeps'⟩ := hkeeps.add (add_eq_ok_iff.2 ⟨a, ha, hcheck, rfl⟩)
  exact ⟨⟨_, hkeeps'⟩, h.base_eq, h.reads.grown (TemplateGroup.grown_place _ _)⟩

/-- A removal that finds something takes the first entry of the text out of its group. -/
theorem Follows.shrunk (h : t.Follows dup base r) {text : String} {t' : TemplateTable P}
    (hremove : t.remove? text = .ok (some t')) :
    TemplateGroup.Shrunk text t.groups t'.groups ∧ t'.basePath = t.basePath := by
  obtain ⟨live, hkeeps⟩ := h.keeps
  obtain ⟨a, g, -, hg, hany, rfl⟩ := remove?_eq_some hremove
  exact ⟨TemplateGroup.shrunk_replace hkeeps.filed hg hany, rfl⟩

/-- **A removal goes along.** -/
theorem Follows.remove? (h : t.Follows dup base r) (text : String) :
    Alike (Option.Rel fun t r => t.Follows dup base r) (t.remove? text) (r.remove? text) := by
  obtain ⟨live, hkeeps⟩ := h.keeps
  have hroll : ∀ a, Template.compile text = .ok a → r.remove? text
      = .ok (if r.live.any (isWritten text) then some (r.strike text) else none) := by
    intro a ha
    unfold Roll.remove?
    rw [ha]
    rfl
  cases hremove : t.remove? text with
  | error e =>
    have hcompile := hkeeps.remove?_eq_error_iff.1 hremove
    unfold Roll.remove?
    rw [hcompile]
    exact .refused e
  | ok t' =>
    cases t' with
    | none =>
      obtain ⟨⟨a, ha⟩, hnot⟩ := hkeeps.remove?_eq_none_iff.1 hremove
      rw [hroll a ha, if_neg (fun hany => hnot (h.mem_texts_iff.2 hany))]
      exact .done .none
    | some t' =>
      obtain ⟨hshrunk, hbase⟩ := h.shrunk hremove
      obtain ⟨a, live', ha, -, hkeeps'⟩ := hkeeps.remove? hremove
      rw [hroll a ha, if_pos (h.mem_texts_iff.1 (hkeeps.remove?_eq_some_iff.1 ⟨t', hremove⟩))]
      refine .done (.some ⟨⟨live', hkeeps'⟩, hbase.trans h.base_eq, ?_⟩)
      exact h.reads.shrunk hshrunk (h.oneShape text)

/-- **A call goes along**: the table replies what the roll replies, and follows what it becomes. -/
theorem Follows.answer (h : t.Follows dup base r) (c : TemplateCall P) :
    (t.answer c).1 = (r.answer dup base c).1
      ∧ (t.answer c).2.Follows dup base (r.answer dup base c).2 := by
  cases c with
  | add text payload =>
    rw [TemplateTable.answer, Roll.answer]
    exact (h.add text payload).ofAdd h
  | addFilter f payload =>
    rw [TemplateTable.answer, Roll.answer]
    exact (Alike.bind (fun text _ => h.add text payload)).ofAdd h
  | remove text =>
    rw [TemplateTable.answer, Roll.answer]
    exact (h.remove? text).ofRemove h
  | removeFilter f =>
    rw [TemplateTable.answer, Roll.answer]
    exact (Alike.bind (fun text _ => h.remove? text)).ofRemove h
  | clear =>
    obtain ⟨live, hkeeps⟩ := h.keeps
    exact ⟨rfl, ⟨[], hkeeps.cleared⟩, h.base_eq, Roll.reads_nil rfl⟩
  | request path query => exact ⟨congrArg Reply.found (h.matching_eq path query), h⟩
  | requestOf q => exact ⟨congrArg Reply.found (h.matching_eq q.destination.path q.query), h⟩
  | single path query =>
    exact ⟨congrArg (fun ms => Reply.ofSingle (Switchboard.single ms)) (h.matching_eq path query), h⟩

end Followed

/-- **A call that says that it changed nothing changes nothing.** -/
theorem answer_of_not_changes (t : TemplateTable P) (c : TemplateCall P)
    (h : (t.answer c).1.changes = false) : (t.answer c).2 = t := by
  cases c with
  | add text payload =>
    rw [answer] at h ⊢
    exact Reply.ofAdd_of_not_changes h
  | addFilter f payload =>
    rw [answer] at h ⊢
    exact Reply.ofAdd_of_not_changes h
  | remove text =>
    rw [answer] at h ⊢
    exact Reply.ofRemove_of_not_changes h
  | removeFilter f =>
    rw [answer] at h ⊢
    exact Reply.ofRemove_of_not_changes h
  | clear => cases h
  | request path query => rfl
  | requestOf q => rfl
  | single path query => rfl

/-! ## Every run -/

/-- **The template table is a roll.** Whatever calls are made on an empty table, it replies as the
roll does, call by call. After them its groups are the roll read shape by shape: no two of one shape,
each with a template and only templates of its shape, in the order in which the shapes last came into
being and, inside, in the order of registration; the texts, the number of templates and the number of
groups are those of the roll. Every live registration has at most one answer to a request, and the
table gives exactly these, in order. A registration that is carried out lets the groups grow by its
entry, a removal that finds something takes the first entry of exactly the text out, and a call that
says that it changed nothing changes nothing. -/
theorem run_eq_roll (dup : Bool) (base : Option String) (calls : List (TemplateCall P))
    (m : Metrics) :
    let segments := (base.map Path.decodedSegments).getD []
    let served := ((empty dup base : TemplateTable P).run calls).result m
    let kept := runAll (Roll.answer dup segments) ({} : Roll P) calls
    served.1 = kept.1
      ∧ served.2.groups = kept.2.groups
      ∧ TemplateGroup.Filed served.2.groups
      ∧ (served.2.groups.map TemplateGroup.shape).Pairwise
          (fun s s' => kept.2.born s < kept.2.born s')
      ∧ (∀ g ∈ served.2.groups, g.entries ≠ [] ∧ g.entries = kept.2.members g.shape)
      ∧ served.2.texts = kept.2.entries.map (fun e => e.template.text)
      ∧ served.2.size = kept.2.live.length
      ∧ served.2.groupCount = kept.2.shapes.length
      ∧ (∀ path query, served.2.matching path query
          = kept.2.entries.filterMap (kept.2.reply? segments path query))
      ∧ (∀ path query e, (kept.2.reply? segments path query e).isSome = true
          ↔ kept.2.Answers segments path query e)
      ∧ (∀ text payload t', served.2.add text payload = .ok t' →
          ∃ a, Template.compile text = .ok a
            ∧ TemplateGroup.Grown ⟨a, payload⟩ served.2.groups t'.groups)
      ∧ (∀ text t', served.2.remove? text = .ok (some t')
          → TemplateGroup.Shrunk text served.2.groups t'.groups)
      ∧ (∀ c, (served.2.answer c).1.changes = false → (served.2.answer c).2 = served.2) := by
  intro segments served kept
  have hserved : served = runAll TemplateTable.answer (empty dup base) calls := result_run _ calls m
  obtain ⟨hreplies, h⟩ : served.1 = kept.1 ∧ served.2.Follows dup segments kept.2 := by
    rw [hserved]
    exact runAll_agrees (fun (t : TemplateTable P) r c (h : t.Follows dup segments r) => h.answer c)
      (follows_empty dup base) calls
  obtain ⟨live, hkeeps⟩ := h.keeps
  refine ⟨hreplies, h.reads.groups_eq, hkeeps.filed, h.reads.ordered, fun g hg => ?_, ?_, ?_, ?_,
    h.matching_eq, kept.2.isSome_reply?_iff segments, fun text payload t' hadd => ?_,
    fun text t' hremove => (h.shrunk hremove).1, answer_of_not_changes served.2⟩
  · have hmembers := h.reads.members g hg
    refine ⟨fun hnil => ?_, hmembers⟩
    exact (h.reads.listed g.shape).1 (List.mem_map_of_mem hg) (hmembers ▸ hnil)
  · unfold texts
    rw [h.templates_eq, List.map_map]
    rfl
  · unfold size
    rw [h.templates_eq, List.length_map, kept.2.entries_perm.length_eq]
  · unfold groupCount
    rw [h.reads.groups_eq]
    exact List.length_map _
  · obtain ⟨a, ha, -, rfl⟩ := add_eq_ok_iff.1 hadd
    exact ⟨a, ha, TemplateGroup.grown_place _ _⟩

/-- A shape keeps its place when its first template is removed and loses it with its last. -/
example :
    let t := (runAll answer (empty false none : TemplateTable Nat)
      [.add "/a" 1, .add "/b" 2, .add "/a?x=1" 3, .remove "/a"]).2
    t.texts = ["/a?x=1", "/b"]
      ∧ (runAll answer t [.remove "/a?x=1", .add "/a" 4]).2.texts = ["/b", "/a"] := by
  decide +kernel

end TemplateTable

end Switchboard
