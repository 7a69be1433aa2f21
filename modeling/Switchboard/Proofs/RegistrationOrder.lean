import Switchboard.Proofs.TemplateRegistry

/-!
# The order of registration

A template is checked, when it comes, with those before it that compete with it. Competing is mutual
but does not carry over: a short wildcard template can compete with two longer ones that do not
compete with each other. When it comes last it is checked with both, when it comes first it is
checked with one at a time, and the check may pass each of the two and refuse the three. So the same
templates are let in in one order and refused in another, and a template that was removed may be
refused when it comes again.

What decides is each template together with **all** that compete with it. Every order is accepted
exactly when the check passes each of these neighbourhoods
(`TemplateTable.accepts_every_order_iff`), and a template that was removed is let in again exactly
when it passes the neighbourhood it had (`TemplateTable.Keeps.add_removed_iff`). Where competing
carries over, a neighbourhood is checked as a whole when its last template comes, so one order that
is accepted stands for all (`TemplateTable.Accepts.perm`).
-/

namespace Switchboard

/-! ## Neighbourhoods -/

namespace Template

/-- **Competing carries over** in a list of templates. -/
def SharingTransitive (ts : List Template) : Prop :=
  ∀ a ∈ ts, ∀ b ∈ ts, ∀ c ∈ ts, a.sharesShape b → b.sharesShape c → a.sharesShape c

instance (ts : List Template) : Decidable (SharingTransitive ts) :=
  inferInstanceAs (Decidable (∀ a ∈ ts, ∀ b ∈ ts, ∀ c ∈ ts, _ → _ → _))

/-- The neighbours of a template before others came, and it behind them, are its neighbours after
it came. -/
theorem neighbours_perm {ts earlier : List Template} {a : Template} (hp : ts.Perm (a :: earlier)) :
    (neighbours earlier a ++ [a]).Perm (neighbours ts a) := by
  have hself : neighbours (a :: earlier) a = a :: neighbours earlier a :=
    List.filter_cons_of_pos (sharesShape_refl a)
  refine (List.perm_append_singleton a _).trans ?_
  rw [← hself]
  exact (hp.filter _).symm

section Sound

variable {dup : Bool} {ts : List Template}

theorem sound_neighbours (hs : ∀ t ∈ ts, t.Sound) (a : Template) :
    ∀ t ∈ neighbours ts a, t.Sound :=
  fun t ht => hs t (List.mem_filter.1 ht).1

/-- Whether templates are admitted, newest first. -/
def admits (dup : Bool) : List Template → Bool
  | [] => true
  | a :: earlier => (unsortedFault? dup (neighbours earlier a ++ [a])).isNone && admits dup earlier

/-- Sound templates are admitted when each shows no fault with its competitors before it. -/
theorem admits_iff (hs : ∀ t ∈ ts, t.Sound) : admits dup ts ↔ Admitted dup ts := by
  induction ts with
  | nil => exact ⟨fun _ => .nil, fun _ => rfl⟩
  | cons a ts ih =>
    have hlater : ∀ t ∈ neighbours ts a ++ [a], t.Sound := fun t ht =>
      sound_neighbours hs a t ((neighbours_perm (List.Perm.refl _)).subset ht)
    rw [admits, Bool.and_eq_true, Option.isNone_iff_eq_none, unsortedFault?_eq_none_iff hlater,
      ih (fun t ht => hs t (List.mem_cons_of_mem a ht))]
    constructor
    · rintro ⟨hadmissible, hadmitted⟩
      exact .cons hadmissible hadmitted
    · intro h
      cases h with
      | cons hadmissible hadmitted => exact ⟨hadmissible, hadmitted⟩

/-- **Templates with admissible neighbourhoods are admitted**, in the order they stand in. -/
theorem admitted_of_neighbours (hs : ∀ t ∈ ts, t.Sound)
    (h : ∀ a ∈ ts, Admissible dup (neighbours ts a)) : Admitted dup ts := by
  induction ts with
  | nil => exact .nil
  | cons t ts ih =>
    refine .cons ?_ (ih (fun u hu => hs u (List.mem_cons_of_mem t hu)) (fun a ha => ?_))
    · exact (h t List.mem_cons_self).perm (sound_neighbours hs t)
        (neighbours_perm (List.Perm.refl _)).symm
    · exact (h a (List.mem_cons_of_mem t ha)).sublist ((List.sublist_cons_self t ts).filter _)

/-- The last template to be admitted has an admissible neighbourhood. -/
theorem Admitted.neighbours {earlier : List Template} {a : Template}
    (h : Admitted dup (a :: earlier)) (hs : ∀ t ∈ ts, t.Sound) (hp : ts.Perm (a :: earlier)) :
    Admissible dup (neighbours ts a) := by
  cases h with
  | cons hadmissible _ =>
    refine hadmissible.perm (fun t ht => ?_) (neighbours_perm hp)
    exact sound_neighbours hs a t ((neighbours_perm hp).subset ht)

/-- **Where competing carries over, admitted templates have admissible neighbourhoods.** -/
theorem Admitted.neighbours_of_transitive (h : Admitted dup ts) (hs : ∀ t ∈ ts, t.Sound)
    (htrans : SharingTransitive ts) : ∀ a ∈ ts, Admissible dup (Template.neighbours ts a) := by
  intro a ha
  refine (h.sublist List.filter_sublist).admissible (sound_neighbours hs a) ?_
  intro b hb c hc
  obtain ⟨hb, hba⟩ := List.mem_filter.1 hb
  obtain ⟨hc, hca⟩ := List.mem_filter.1 hc
  exact htrans b hb a ha c hc hba (sharesShape_symm hca)

theorem SharingTransitive.perm {us : List Template} (h : SharingTransitive ts) (hp : us.Perm ts) :
    SharingTransitive us :=
  fun a ha b hb c hc => h a (hp.subset ha) b (hp.subset hb) c (hp.subset hc)

end Sound

end Template

/-! ## Registering one after another -/

namespace TemplateTable

variable {P : Type}

/-- Registers texts with their payloads, one after another. -/
def addAll (t : TemplateTable P) (entries : List (String × P)) :
    Except DispatchError (TemplateTable P) :=
  entries.foldlM (fun t e => t.add e.1 e.2) t

/-- **An order is accepted** when every text, in its turn, is registered. -/
def Accepts (dup : Bool) (base : Option String) (entries : List (String × P)) : Prop :=
  ∃ t, (empty dup base).addAll entries = .ok t

/-- The templates that texts compile to. -/
def templatesOf (entries : List (String × P)) : List Template :=
  entries.filterMap fun e => (Template.compile e.1).toOption

/-- Every text compiles. -/
def Compiles (entries : List (String × P)) : Prop :=
  ∀ e ∈ entries, ∃ a, Template.compile e.1 = .ok a

instance (entries : List (String × P)) : Decidable (Compiles entries) :=
  decidable_of_iff (∀ e ∈ entries, (Template.compile e.1).isOk)
    (forall₂_congr fun e _ => by cases Template.compile e.1 <;> simp [Except.isOk, Except.toBool])

theorem templatesOf_cons {e : String × P} {entries : List (String × P)} {a : Template}
    (h : Template.compile e.1 = .ok a) : templatesOf (e :: entries) = a :: templatesOf entries := by
  unfold templatesOf
  rw [List.filterMap_cons, h]
  rfl

/-- What is compiled comes from a text. -/
theorem mem_templatesOf {entries : List (String × P)} {a : Template} (h : a ∈ templatesOf entries) :
    ∃ e ∈ entries, Template.compile e.1 = .ok a := by
  obtain ⟨e, he, ha⟩ := List.mem_filterMap.1 h
  refine ⟨e, he, ?_⟩
  cases hcompile : Template.compile e.1 with
  | error _ => rw [hcompile] at ha; cases ha
  | ok b => rw [hcompile] at ha; cases ha; rfl

theorem sound_templatesOf (entries : List (String × P)) : ∀ a ∈ templatesOf entries, a.Sound := by
  intro a ha
  obtain ⟨e, -, he⟩ := mem_templatesOf ha
  exact (Template.compile_sound he).1

/-- **Texts are registered one after another** exactly when they compile and their templates are
admitted in front of the live ones. -/
theorem Keeps.addAll_ok_iff {t : TemplateTable P} {dup : Bool} {live : List Template}
    (h : t.Keeps dup live) (entries : List (String × P)) :
    (∃ t', t.addAll entries = .ok t')
      ↔ Compiles entries ∧ Template.Admitted dup ((templatesOf entries).reverse ++ live) := by
  induction entries generalizing t live with
  | nil =>
    refine ⟨fun _ => ⟨fun e he => absurd he List.not_mem_nil, h.admitted⟩, fun _ => ⟨t, rfl⟩⟩
  | cons e entries ih =>
    have hsplit : t.addAll (e :: entries) = t.add e.1 e.2 >>= fun t₁ => t₁.addAll entries :=
      List.foldlM_cons
    have happend : ∀ a, Template.compile e.1 = .ok a
        → (templatesOf (e :: entries)).reverse ++ live = (templatesOf entries).reverse ++ a :: live := by
      intro a ha
      rw [templatesOf_cons ha, List.reverse_cons, List.append_assoc, List.singleton_append]
    rw [hsplit]
    constructor
    · rintro ⟨t', hadd⟩
      obtain ⟨t₁, hadd, hrest⟩ := ok_of_bind_eq_ok hadd
      obtain ⟨a, ha, hkeeps⟩ := h.add hadd
      obtain ⟨hcompiles, hadmitted⟩ := (ih hkeeps).1 ⟨t', hrest⟩
      refine ⟨List.forall_mem_cons.2 ⟨⟨a, ha⟩, hcompiles⟩, ?_⟩
      rw [happend a ha]
      exact hadmitted
    · rintro ⟨hcompiles, hadmitted⟩
      obtain ⟨⟨a, ha⟩, hcompiles⟩ := List.forall_mem_cons.1 hcompiles
      rw [happend a ha] at hadmitted
      have hfirst : Template.Admitted dup (a :: live) :=
        hadmitted.sublist (List.sublist_append_right _ _)
      cases hfirst with
      | cons hadmissible _ =>
        obtain ⟨t₁, hadd⟩ : ∃ t₁, t.add e.1 e.2 = .ok t₁ := h.add_ok_iff.2 ⟨a, ha, hadmissible⟩
        obtain ⟨a', ha', hkeeps⟩ := h.add hadd
        rw [ha, Except.ok.injEq] at ha'
        subst ha'
        obtain ⟨t', hrest⟩ := (ih hkeeps).2 ⟨hcompiles, hadmitted⟩
        exact ⟨t', by rw [hadd]; exact hrest⟩

/-- **What is accepted**: texts that compile to templates admitted one after another. -/
theorem accepts_iff {dup : Bool} {base : Option String} {entries : List (String × P)} :
    Accepts dup base entries
      ↔ Compiles entries ∧ Template.Admitted dup (templatesOf entries).reverse := by
  have h := (keeps_empty dup base : (empty dup base : TemplateTable P).Keeps dup []).addAll_ok_iff
    entries
  rwa [List.append_nil] at h

/-- The check passes the neighbourhoods that are admissible. -/
theorem checkGroup_neighbours {dup : Bool} {ts : List Template} (hs : ∀ t ∈ ts, t.Sound)
    (a : Template) : Template.checkGroup dup (Template.neighbours ts a) = .ok ()
      ↔ Template.Admissible dup (Template.neighbours ts a) :=
  Template.checkGroup_eq_ok_iff (Template.sound_neighbours hs a)

/-- What is accepted can be computed. -/
theorem accepts_iff_admits {dup : Bool} {base : Option String} {entries : List (String × P)} :
    Accepts dup base entries
      ↔ Compiles entries ∧ Template.admits dup (templatesOf entries).reverse := by
  rw [accepts_iff, Template.admits_iff]
  exact fun a ha => sound_templatesOf entries a (List.mem_reverse.1 ha)

/-- **Every order is accepted** exactly when the texts compile and the check passes every
neighbourhood. -/
theorem accepts_every_order_iff (dup : Bool) (base : Option String)
    (entries : List (String × P)) :
    (∀ entries' : List (String × P), entries'.Perm entries → Accepts dup base entries')
      ↔ Compiles entries ∧ ∀ a ∈ templatesOf entries,
          Template.checkGroup dup (Template.neighbours (templatesOf entries) a) = .ok () := by
  simp only [checkGroup_neighbours (sound_templatesOf entries)]
  constructor
  · intro h
    refine ⟨(accepts_iff.1 (h entries (List.Perm.refl _))).1, fun a ha => ?_⟩
    obtain ⟨e, he, hcompile⟩ := mem_templatesOf ha
    obtain ⟨l, r, rfl⟩ := List.append_of_mem he
    -- the order in which this text comes last
    have hlast : ((l ++ r) ++ [e]).Perm (l ++ e :: r) :=
      (List.perm_append_singleton e (l ++ r)).trans List.perm_middle.symm
    obtain ⟨-, hadmitted⟩ := accepts_iff.1 (h _ hlast)
    have hreverse : (templatesOf ((l ++ r) ++ [e])).reverse
        = a :: (templatesOf (l ++ r)).reverse := by
      unfold templatesOf
      rw [List.filterMap_append, List.reverse_append, List.filterMap_cons, hcompile]
      rfl
    rw [hreverse] at hadmitted
    refine hadmitted.neighbours (sound_templatesOf _) ?_
    rw [← hreverse]
    exact (hlast.symm.filterMap _).trans (List.reverse_perm _).symm
  · rintro ⟨hcompiles, hadmissible⟩ entries' hp
    refine accepts_iff.2 ⟨fun e he => hcompiles e (hp.subset he), ?_⟩
    have hperm : (templatesOf entries').reverse.Perm (templatesOf entries) :=
      (List.reverse_perm _).trans (hp.filterMap _)
    refine Template.admitted_of_neighbours
      (fun a ha => sound_templatesOf entries a (hperm.subset ha)) (fun a ha => ?_)
    exact (hadmissible a (hperm.subset ha)).perm
      (Template.sound_neighbours (sound_templatesOf entries) a) (hperm.symm.filter _)

/-- **Where competing carries over, one accepted order stands for all.** -/
theorem Accepts.perm {dup : Bool} {base : Option String} {entries entries' : List (String × P)}
    (h : Accepts dup base entries) (hp : entries'.Perm entries)
    (htrans : Template.SharingTransitive (templatesOf entries)) : Accepts dup base entries' := by
  obtain ⟨hcompiles, hadmitted⟩ := accepts_iff.1 h
  refine (accepts_every_order_iff dup base entries).2 ⟨hcompiles, fun a ha => ?_⟩ entries' hp
  have hperm := List.reverse_perm (templatesOf entries)
  have hs : ∀ t ∈ (templatesOf entries).reverse, t.Sound :=
    fun t ht => sound_templatesOf entries t (hperm.subset ht)
  refine (checkGroup_neighbours (sound_templatesOf entries) a).2 ?_
  exact (hadmitted.neighbours_of_transitive hs (htrans.perm hperm) a (hperm.symm.subset ha)).perm
    (Template.sound_neighbours hs a) (hperm.filter _)

/-! ## Registering again -/

section Kept

variable {t t' : TemplateTable P} {dup : Bool} {live : List Template}

/-- The competitors of a live template, itself included, are its neighbourhood. -/
theorem rivals_eq (t : TemplateTable P) (a : Template) :
    t.rivals a = Template.neighbours t.templates a := rfl

/-- **A template that was removed is let in again** exactly when the check passes the
neighbourhood it had. -/
theorem Keeps.add_removed_iff (h : t.Keeps dup live) {a : Template} (ha : a ∈ t.templates)
    (hremove : t.remove? a.text = .ok (some t')) (payload : P) :
    (∃ t'', t'.add a.text payload = .ok t'') ↔ Template.checkGroup dup (t.rivals a) = .ok () := by
  have hcompile : Template.compile a.text = .ok a := h.templates_compiled a ha
  obtain ⟨b, live', hb, hlive, hkeeps⟩ := h.remove? hremove
  rw [hcompile, Except.ok.injEq] at hb
  subst hb
  have hperm : (Template.neighbours live' a ++ [a]).Perm (Template.neighbours t.templates a) :=
    Template.neighbours_perm (h.perm.symm.trans hlive)
  have hsound := Template.sound_neighbours h.templates_sound a
  rw [rivals_eq, checkGroup_neighbours h.templates_sound, hkeeps.add_ok_iff]
  constructor
  · rintro ⟨c, hc, hadmissible⟩
    rw [hcompile, Except.ok.injEq] at hc
    subst hc
    exact hadmissible.perm (fun b hb => hsound b (hperm.subset hb)) hperm
  · intro hadmissible
    exact ⟨a, hcompile, hadmissible.perm hsound hperm.symm⟩

/-- Where competing carries over among the live templates, their neighbourhoods pass the check. -/
theorem Keeps.checkGroup_rivals_of_transitive (h : t.Keeps dup live)
    (htrans : Template.SharingTransitive t.templates) {a : Template} (ha : a ∈ t.templates) :
    Template.checkGroup dup (t.rivals a) = .ok () := by
  rw [rivals_eq, checkGroup_neighbours h.templates_sound]
  exact (h.admitted.neighbours_of_transitive h.sound (htrans.perm h.perm) a
    (h.perm.symm.subset ha)).perm (Template.sound_neighbours h.sound a) (h.perm.filter _)

end Kept

/-! ## The order of registration -/

/-- **When the order of registration does not matter.** All orders of some texts are accepted exactly
when the texts compile and the check passes each template together with all that compete with it.
Where competing carries over among the templates, one order that is accepted stands for all. After
any run, a live template can be removed, and it is let in again exactly when the check passes it
together with all that competed with it, which it does where competing carries over. -/
theorem registration_order (dup : Bool) (base : Option String) :
    (∀ entries : List (String × P),
      (∀ entries' : List (String × P), entries'.Perm entries → Accepts dup base entries')
        ↔ Compiles entries ∧ ∀ a ∈ templatesOf entries,
            Template.checkGroup dup (Template.neighbours (templatesOf entries) a) = .ok ())
      ∧ (∀ entries entries' : List (String × P), entries'.Perm entries
          → Template.SharingTransitive (templatesOf entries)
          → Accepts dup base entries → Accepts dup base entries')
      ∧ ∀ (calls : List (TemplateCall P)) (m : Metrics),
          let t := (((empty dup base : TemplateTable P).run calls).result m).2
          ∀ a ∈ t.templates, ∃ t', t.remove? a.text = .ok (some t')
            ∧ ∀ payload,
              ((∃ t'', t'.add a.text payload = .ok t'')
                ↔ Template.checkGroup dup (t.rivals a) = .ok ())
              ∧ (Template.SharingTransitive t.templates
                  → ∃ t'', t'.add a.text payload = .ok t'') := by
  refine ⟨accepts_every_order_iff dup base, fun entries entries' hp htrans h => h.perm hp htrans,
    fun calls m => ?_⟩
  intro t a ha
  obtain ⟨live, h⟩ : ∃ live, t.Keeps dup live := keeps_run dup base calls m
  obtain ⟨t', ht'⟩ := h.remove?_eq_ok (h.perm.symm.subset ha)
  have hiff := h.add_removed_iff ha ht'
  refine ⟨t', ht', fun payload => ⟨hiff payload, fun htrans => ?_⟩⟩
  exact (hiff payload).2 (h.checkGroup_rivals_of_transitive htrans ha)

/-- Competing carries over between two nested wildcard templates, so both orders are accepted. -/
theorem registration_order_nested :
    Template.SharingTransitive (templatesOf [("/a/*?x=1", 0), ("/a/b/*?x=2", 1)])
      ∧ Accepts false none [("/a/*?x=1", 0), ("/a/b/*?x=2", 1)]
      ∧ Accepts false none [("/a/b/*?x=2", 1), ("/a/*?x=1", 0)] := by
  have htrans : Template.SharingTransitive (templatesOf [("/a/*?x=1", 0), ("/a/b/*?x=2", 1)]) := by
    decide +kernel
  have haccepts : Accepts false none [("/a/*?x=1", 0), ("/a/b/*?x=2", 1)] := by
    rw [accepts_iff_admits]
    decide +kernel
  exact ⟨htrans, haccepts,
    (registration_order false none).2.1 _ _ (List.Perm.swap _ _ _) htrans haccepts⟩

/-- A short wildcard template and two longer ones, registered in this order, are all let in; the
short one is refused when it comes last. -/
theorem order_matters :
    Accepts false none [("/a/*?x=1&y=1", 0), ("/a/b/*?x=2", 1), ("/a/c/*?y=2", 2)]
      ∧ ¬ Accepts false none [("/a/b/*?x=2", 1), ("/a/c/*?y=2", 2), ("/a/*?x=1&y=1", 0)] := by
  rw [accepts_iff_admits, accepts_iff_admits]
  decide +kernel

end TemplateTable

end Switchboard
