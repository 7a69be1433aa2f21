import Switchboard.Proofs.PathMatching
import Switchboard.Proofs.Routing

/-!
# What names and letter case say about matching

Two templates whose paths look alike (`Template.LooksLike`) differ in the names of their captures, in the
case of their texts, and in whether the wildcard has a name. None of this should matter to which paths
they match. Otherwise templates of one group would not compete for the same paths, and that a group is
told apart by its queries alone would say nothing.

That they match the same paths is not all, as a name is there to be asked for. Names at corresponding
places (`Template.partners`) are bound to the same text. For compounds this is the point: which cut is
found first could depend on the pieces, but a text and its like drop the same start, and captures try the
same cuts in the same order, whatever they are called. So the values of two matches are equal one by one
(`Bindings.SameValues`), up to the wildcard. There one side may bind a value and the other none, and
they only agree as far as both go (`Bindings.Agree`).

Wildcards make paths of different lengths compete. Where only the segments before the wildcard of one
template look like the start of another, one direction is left: the shorter one matches whatever the
longer one does (`Template.matchPath_of_looksLike`).
-/

namespace Switchboard

/-- Outcomes that are related are both there, or neither is. -/
theorem OptionRel.isSome_eq {α β : Type} {R : α → β → Prop} {x : Option α} {y : Option β}
    (h : Option.Rel R x y) : x.isSome = y.isSome := by
  cases h <;> rfl

/-! ## Values, names aside -/

namespace Bindings

/-- **Bindings with the same values**, one by one, whatever the names. -/
def SameValues (b b' : Bindings) : Prop :=
  List.Forall₂ (fun x y => x.2 = y.2) b b'

/-- **Bindings that agree** as far as both go. -/
def Agree (b b' : Bindings) : Prop :=
  ∀ p ∈ b.zip b', p.1.2 = p.2.2

theorem SameValues.agree {b b' : Bindings} (h : SameValues b b') : Agree b b' :=
  fun _ hp => List.forall₂_zip h hp

/-- The same values before those that agree. -/
theorem Agree.append {b b' v v' : Bindings} (hb : SameValues b b') (hv : Agree v v') :
    Agree (b ++ v) (b' ++ v') := by
  unfold Agree
  rw [List.zip_append hb.length_eq, List.forall_mem_append]
  exact ⟨hb.agree, hv⟩

/-- **Names at one place have one value**, where bindings agree and no name is bound twice. -/
theorem Agree.get?_eq {b b' : Bindings} (h : Agree b b')
    (hb : (b.map Prod.fst).Pairwise fun m n => ¬ Ascii.Same m n)
    (hb' : (b'.map Prod.fst).Pairwise fun m n => ¬ Ascii.Same m n) :
    ∀ p ∈ (b.map Prod.fst).zip (b'.map Prod.fst),
      ∃ value, b.get? p.1 = some value ∧ b'.get? p.2 = some value := by
  intro p hp
  rw [List.zip_map] at hp
  obtain ⟨⟨x, y⟩, hxy, rfl⟩ := List.mem_map.1 hp
  obtain ⟨hx, hy⟩ := List.of_mem_zip hxy
  have hvalue : x.2 = y.2 := h (x, y) hxy
  exact ⟨x.2, get?_of_mem hb x hx, hvalue ▸ get?_of_mem hb' y hy⟩

end Bindings

/-- Texts that are the same up to case drop the same start. -/
theorem Ascii.dropSame_congr {l l' : String} (h : Same l l') :
    dropSame l.toList = dropSame l'.toList := by
  funext text
  refine Option.ext fun rest => ?_
  rw [dropSame_eq_some_iff, dropSame_eq_some_iff, (same_iff l l').1 h]

/-! ## Segments that look alike -/

theorem Piece.length_names_of_looksLike {p q : Piece} (h : p.LooksLike q) :
    p.names.length = q.names.length := by
  match p, q, h with
  | .literal _, .literal _, _ => rfl
  | .capture _, .capture _, _ => rfl

/-- **Pieces that look alike match the same texts, and bind the same values.** -/
theorem Piece.matchAll_of_looksLike {ps qs : List Piece} (h : List.Forall₂ LooksLike ps qs)
    (text : List Char) : Option.Rel Bindings.SameValues (matchAll ps text) (matchAll qs text) := by
  induction h generalizing text with
  | nil =>
    rw [matchAll]
    split
    · exact .some .nil
    · exact .none
  | @cons p q ps qs hpq _ ih =>
    cases p with
    | literal l =>
      cases q with
      | capture name => exact hpq.elim
      | literal l' =>
        rw [matchAll, matchAll, Ascii.dropSame_congr hpq]
        cases Ascii.dropSame l'.toList text with
        | none => exact .none
        | some rest => exact ih rest
    | capture name =>
      cases q with
      | literal l => exact hpq.elim
      | capture name' =>
        -- both try the cuts of one list, and each cut leaves the same rest to the other pieces
        have hcuts : List.Forall₂ Eq (cuts text) (cuts text) := List.forall₂_refl _
        rw [matchAll, matchAll]
        refine OptionRel.findSome? hcuts fun hcut => ?_
        subst hcut
        exact OptionRel.map (ih _) fun hb => .cons rfl hb

namespace Segment

section LooksLike

variable {s s' : Segment}

theorem isWildcard_eq_of_looksLike (h : s.LooksLike s') : s.isWildcard = s'.isWildcard := by
  match s, s', h with
  | .literal _, .literal _, _ => rfl
  | .capture _, .capture _, _ => rfl
  | .compound _, .compound _, _ => rfl
  | .wildcard _, .wildcard _, _ => rfl

/-- Segments that look alike bind as many names, unless they are wildcards. -/
theorem length_names_of_looksLike (h : s.LooksLike s') (hs : s.isWildcard = false) :
    s.names.length = s'.names.length := by
  match s, s', h with
  | .literal _, .literal _, _ => rfl
  | .capture _, .capture _, _ => rfl
  | .wildcard _, .wildcard _, _ => cases hs
  | .compound ps, .compound qs, h =>
    show (ps.flatMap Piece.names).length = (qs.flatMap Piece.names).length
    rw [List.length_flatMap, List.length_flatMap]
    exact congrArg List.sum (map_eq_of_forall₂ Piece.length_names_of_looksLike h)

theorem matchOne_of_looksLike (h : s.LooksLike s') (actual : String) :
    Option.Rel Bindings.SameValues (s.matchOne actual) (s'.matchOne actual) := by
  match s, s', h with
  | .literal text, .literal text', h =>
    have hiff : Ascii.Same text actual ↔ Ascii.Same text' actual :=
      ⟨fun htext => h.symm.trans htext, fun htext => h.trans htext⟩
    rw [matchOne, matchOne, if_congr hiff rfl rfl]
    split
    · exact .some .nil
    · exact .none
  | .capture _, .capture _, _ => exact .some (.cons rfl .nil)
  | .compound _, .compound _, h => exact Piece.matchAll_of_looksLike h actual.toList
  | .wildcard _, .wildcard _, _ => exact .none

/-- Segments that look alike take the same. -/
theorem takes_of_looksLike (h : s.LooksLike s') (actual : String) :
    s.Takes actual ↔ s'.Takes actual := by
  rw [← isSome_matchOne_iff, ← isSome_matchOne_iff,
    OptionRel.isSome_eq (matchOne_of_looksLike h actual)]

end LooksLike

/-- What segments take, those that look like them take as well. -/
theorem forall₂_takes_of_looksLike {ss ss' : List Segment} (h : List.Forall₂ LooksLike ss ss')
    {actual : List String} (htakes : List.Forall₂ Takes ss' actual) :
    List.Forall₂ Takes ss actual := by
  induction h generalizing actual with
  | nil => exact htakes
  | cons hs _ ih =>
    obtain ⟨a, actual, ha, hrest, rfl⟩ := List.forall₂_cons_left_iff.1 htakes
    exact .cons ((takes_of_looksLike hs a).2 ha) (ih hrest)

/-- **Segments that look alike match the same paths**, and bind values that agree. -/
theorem matchAll_of_looksLike {ss ss' : List Segment} (h : List.Forall₂ LooksLike ss ss')
    (actual : List String) :
    Option.Rel Bindings.Agree (matchAll ss actual) (matchAll ss' actual) := by
  induction h generalizing actual with
  | nil =>
    cases actual with
    | nil => exact .some fun _ hp => absurd hp List.not_mem_nil
    | cons a actual => exact .none
  | @cons s s' ss ss' hs _ ih =>
    have hkind := isWildcard_eq_of_looksLike hs
    cases hw : s.isWildcard with
    | true =>
      rw [hw] at hkind
      match s, s', hw, hkind.symm with
      | .wildcard name, .wildcard name', _, _ =>
        rw [matchAll, matchAll]
        refine .some fun p hp => ?_
        -- whatever is bound here is the rest of the path
        obtain ⟨hleft, hright⟩ := List.of_mem_zip hp
        obtain ⟨n, -, hn⟩ := List.mem_map.1 hleft
        obtain ⟨n', -, hn'⟩ := List.mem_map.1 hright
        rw [← hn, ← hn']
    | false =>
      have hw' : s'.isWildcard = false := hkind ▸ hw
      cases actual with
      | nil =>
        rw [matchAll_cons_nil hw, matchAll_cons_nil hw']
        exact .none
      | cons a actual =>
        rw [matchAll_cons_cons hw, matchAll_cons_cons hw']
        refine OptionRel.bind (matchOne_of_looksLike hs a) fun hb => ?_
        exact OptionRel.map (ih actual) fun hv => Bindings.Agree.append hb hv

/-- **The names at corresponding places**, segment by segment. Wildcards correspond, and if one of
them is anonymous, the name of the other has no partner. -/
def partners (ss ss' : List Segment) : List (String × String) :=
  (ss.zip ss').flatMap fun s => s.1.names.zip s.2.names

/-- Partners stand at one place in the lists of all names, where a wildcard is the last segment. -/
theorem partners_eq_zip {ss ss' : List Segment} (h : List.Forall₂ LooksLike ss ss')
    (hlast : ∀ s ∈ ss.dropLast, s.isWildcard = false) :
    partners ss ss' = (ss.flatMap names).zip (ss'.flatMap names) := by
  unfold partners
  induction h with
  | nil => rfl
  | @cons s s' ss ss' hs h ih =>
    rw [List.zip_cons_cons, List.flatMap_cons, List.flatMap_cons, List.flatMap_cons,
      ih (forall_mem_dropLast_of_cons hlast)]
    cases hw : s.isWildcard with
    | true =>
      obtain rfl := eq_nil_of_wildcard hw hlast
      obtain rfl := List.forall₂_nil_left_iff.1 h
      simp
    | false => exact (List.zip_append (length_names_of_looksLike hs hw)).symm

end Segment

namespace Template

/-- **The names at corresponding places** of two templates. -/
def partners (a b : Template) : List (String × String) :=
  Segment.partners a.segments b.segments

/-- The segments before the wildcard are the first ones. -/
theorem take_stem {t : Template} {n : Nat} (hn : n ≤ t.stem.length) :
    t.stem.take n = t.segments.take n := by
  have hprefix : t.stem <+: t.segments := List.takeWhile_prefix _
  rw [List.prefix_iff_eq_take.1 hprefix, List.take_take, min_eq_left hn]

/-- A template with a wildcard matches what one with a wildcard further on matches, if the segments
before its wildcard look like the first ones of the other. -/
theorem isSome_matchPath_of_stem {text text' : String} {a b : Template} (ha : compile text = .ok a)
    (hb : compile text' = .ok b) (wa : a.endsInWildcard = true) (wb : b.endsInWildcard = true)
    (hlength : a.segments.length ≤ b.segments.length)
    (h : List.Forall₂ Segment.LooksLike a.stem (b.segments.take a.stem.length))
    {actual : List String} (hmatch : (b.matchPath actual).isSome) : (a.matchPath actual).isSome := by
  have hstem : a.stem.length ≤ b.stem.length := by
    rw [stem_eq_of_compile ha, stem_eq_of_compile hb, if_pos wa, if_pos wb, List.length_dropLast,
      List.length_dropLast]
    exact Nat.sub_le_sub_right hlength 1
  have htakes : List.Forall₂ Segment.Takes b.stem (actual.take b.stem.length) :=
    (Segment.isSome_matchAll_iff.1 hmatch).1
  -- the other template takes the start of the path with its first segments
  have hfirst := List.forall₂_take a.stem.length htakes
  rw [List.take_take, min_eq_left hstem] at hfirst
  have hstart : b.stem.take a.stem.length = b.segments.take a.stem.length := take_stem hstem
  refine Segment.isSome_matchAll_iff.2 ⟨?_, fun hnone => ?_⟩
  · exact Segment.forall₂_takes_of_looksLike (hstart ▸ h) hfirst
  · rw [any_isWildcard_of_compile ha, wa] at hnone
    cases hnone

/-- **Names and letter case do not matter to matching.** Templates whose paths look alike match the same
paths, and a match binds names at corresponding places to the same text. If two templates end in a
wildcard, and only the segments before that of the shorter one look like the first ones of the longer
one, then the shorter one matches whatever the longer one does. -/
theorem matchPath_of_looksLike {text text' : String} {a b : Template} (ha : compile text = .ok a)
    (hb : compile text' = .ok b) :
    (a.LooksLike b → ∀ actual,
      ((a.matchPath actual).isSome ↔ (b.matchPath actual).isSome)
      ∧ ∀ v w, a.matchPath actual = some v → b.matchPath actual = some w
        → ∀ p ∈ a.partners b, ∃ value, v.get? p.1 = some value ∧ w.get? p.2 = some value)
    ∧ (a.endsInWildcard = true → b.endsInWildcard = true
      → a.segments.length ≤ b.segments.length
      → List.Forall₂ Segment.LooksLike a.stem (b.segments.take a.stem.length)
      → ∀ actual, (b.matchPath actual).isSome → (a.matchPath actual).isSome) := by
  refine ⟨fun h actual => ?_, fun wa wb hlength h actual hmatch =>
    isSome_matchPath_of_stem ha hb wa wb hlength h hmatch⟩
  have hrel : Option.Rel Bindings.Agree (a.matchPath actual) (b.matchPath actual) :=
    Segment.matchAll_of_looksLike h actual
  refine ⟨by rw [OptionRel.isSome_eq hrel], fun v w hv hw => ?_⟩
  rw [hv, hw] at hrel
  obtain ⟨hagree⟩ := hrel
  have hv := (Segment.of_matchAll (isWildcard_dropLast_of_compile ha) hv).1
  have hw := (Segment.of_matchAll (isWildcard_dropLast_of_compile hb) hw).1
  have hpartners : a.partners b = (v.map Prod.fst).zip (w.map Prod.fst) := by
    rw [hv, hw]
    exact Segment.partners_eq_zip h (isWildcard_dropLast_of_compile ha)
  rw [hpartners]
  refine hagree.get?_eq ?_ ?_
  · rw [hv]
    exact (List.pairwise_append.1 (pairwise_names_of_compile ha)).1
  · rw [hw]
    exact (List.pairwise_append.1 (pairwise_names_of_compile hb)).1

/-- Two spellings of one path, of which one names the rest, and a shorter path for everything below its
first segment. Each version is cut at its first dot in both, and `{*rest}` has no partner. -/
theorem matchPath_of_looksLike_versions :
    let a : Template := ⟨"/Items/v\x7bmajor\x7d.\x7bminor\x7d/*", [.literal "Items",
      .compound [.literal "v", .capture "major", .literal ".", .capture "minor"],
      .wildcard none], []⟩
    let b : Template := ⟨"/items/V\x7bx\x7d.\x7by\x7d/\x7b*rest\x7d", [.literal "items",
      .compound [.literal "V", .capture "x", .literal ".", .capture "y"],
      .wildcard (some "rest")], []⟩
    let short : Template := ⟨"/ITEMS/*", [.literal "ITEMS", .wildcard none], []⟩
    let path := ["ITEMS", "v1.2.3", "q"]
    (∀ t ∈ [a, b, short], compile t.text = .ok t) ∧ a.LooksLike b
      ∧ a.partners b = [("major", "x"), ("minor", "y")]
      ∧ a.matchPath path = some [("major", "1"), ("minor", "2.3")]
      ∧ b.matchPath path = some [("x", "1"), ("y", "2.3"), ("rest", "q")]
      ∧ (∃ value, Bindings.get? [("major", "1"), ("minor", "2.3")] "minor" = some value
        ∧ Bindings.get? [("x", "1"), ("y", "2.3"), ("rest", "q")] "y" = some value)
      ∧ (short.matchPath path).isSome := by
  intro a b short path
  have ha : compile a.text = .ok a := by decide +kernel
  have hb : compile b.text = .ok b := by decide +kernel
  have hshort : compile short.text = .ok short := by decide +kernel
  have hv : a.matchPath path = some [("major", "1"), ("minor", "2.3")] := by decide +kernel
  have hw : b.matchPath path = some [("x", "1"), ("y", "2.3"), ("rest", "q")] := by decide +kernel
  have hfirst : Ascii.Same "Items" "items" ∧ Ascii.Same "ITEMS" "items" ∧ Ascii.Same "v" "V" := by
    decide +kernel
  have hlooks : a.LooksLike b := .cons hfirst.1
    (.cons (.cons hfirst.2.2 (.cons trivial (.cons rfl (.cons trivial .nil)))) (.cons trivial .nil))
  have hpartners : a.partners b = [("major", "x"), ("minor", "y")] := rfl
  have hminor : ("minor", "y") ∈ a.partners b := by
    rw [hpartners]
    decide
  have hstem : List.Forall₂ Segment.LooksLike short.stem (b.segments.take short.stem.length) :=
    .cons hfirst.2.1 .nil
  have hmatch : (b.matchPath path).isSome := by
    rw [hw]
    rfl
  exact ⟨by simp [ha, hb, hshort], hlooks, hpartners, hv, hw,
    ((matchPath_of_looksLike ha hb).1 hlooks path).2 _ _ hv hw _ hminor,
    (matchPath_of_looksLike hshort hb).2 rfl rfl (by decide) hstem path hmatch⟩

end Template

end Switchboard
