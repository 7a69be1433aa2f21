import Mathlib.Data.List.Forall2
import Switchboard.Proofs.Segments

/-!
# Which paths a template matches

A template matches a path when each segment before its wildcard **takes** the segment of the path at its
place, and the path has as many segments as the template, or at least those before the wildcard if there
is one. What a segment takes can be said without matching. A literal takes its own text, up to case, and
a capture takes any text. A compound takes a text that can be **cut** into parts, one for each of its
pieces, so that a text takes its own and a capture takes at least one character (`Piece.Cut`). Matching
tries cuts one after another, and finds one if there is any (`Piece.isSome_matchAll_iff`).

What a match binds is read off a cut: each capture is bound to its part, in order (`Piece.bound`). So the
bound names are those of the template, and the template with the bound values put in their places is
the path again: what it captures is there character by character, and what it fixes is there up to
case (`Segment.Restored`). Putting a value in the place of a name looks the name up, up to case, and
this finds the value that the name was bound to, as no two names of a compiled template are the same.
-/

namespace Switchboard

/-! ## Parts of a text -/

/-- What is left after a start is what follows some text that is the same as the start. -/
theorem Ascii.dropSame_eq_some_iff {start text rest : List Char} : dropSame start text = some rest
    ↔ ∃ head, head ++ rest = text ∧ start.map Char.toUpper = head.map Char.toUpper := by
  induction start generalizing text with
  | nil =>
    constructor
    · intro h
      exact ⟨[], (Option.some.inj h).symm, rfl⟩
    · rintro ⟨head, rfl, hhead⟩
      rw [List.map_eq_nil_iff.1 hhead.symm]
      rfl
  | cons s start ih =>
    cases text with
    | nil =>
      refine iff_of_false (nomatch ·) ?_
      rintro ⟨head, hnil, hhead⟩
      rw [(List.append_eq_nil_iff.1 hnil).1] at hhead
      cases hhead
    | cons c text =>
      rw [dropSame]
      split
      next hsame =>
        rw [ih]
        constructor
        · rintro ⟨head, rfl, hhead⟩
          exact ⟨c :: head, rfl, congrArg₂ List.cons hsame hhead⟩
        · rintro ⟨head, htext, hhead⟩
          obtain ⟨c', head, rfl, -, htail⟩ := List.map_eq_cons_iff.1 hhead.symm
          exact ⟨head, (List.cons.inj htext).2, htail.symm⟩
      next hsame =>
        refine iff_of_false (nomatch ·) ?_
        rintro ⟨head, htext, hhead⟩
        obtain ⟨c', head, rfl, hc', -⟩ := List.map_eq_cons_iff.1 hhead.symm
        rw [(List.cons.inj htext).1] at hc'
        exact hsame hc'.symm

/-- **The cuts of a text** are all ways to write it as some text and the rest. -/
theorem mem_cuts {text : List Char} {p : List Char × List Char} :
    p ∈ cuts text ↔ p.1 ≠ [] ∧ p.1 ++ p.2 = text := by
  obtain ⟨head, rest⟩ := p
  induction text generalizing head with
  | nil =>
    refine iff_of_false List.not_mem_nil ?_
    rintro ⟨hhead, hnil⟩
    exact hhead (List.append_eq_nil_iff.1 hnil).1
  | cons c text ih =>
    rw [cuts, List.mem_cons, List.mem_map]
    constructor
    · rintro (h | ⟨⟨head', rest'⟩, hmem, h⟩)
      · cases h
        exact ⟨List.cons_ne_nil c [], rfl⟩
      · cases h
        exact ⟨List.cons_ne_nil c head', congrArg (c :: ·) ((ih head').1 hmem).2⟩
    · rintro ⟨hhead, htext⟩
      obtain ⟨c', head, rfl⟩ := List.exists_cons_of_ne_nil hhead
      obtain ⟨rfl, htail⟩ := List.cons.inj htext
      -- the first character alone, or with some text after it
      by_cases hnil : head = []
      · subst hnil
        exact Or.inl (congrArg (Prod.mk [c']) htail)
      · exact Or.inr ⟨(head, rest), (ih head).2 ⟨hnil, htail⟩, rfl⟩

/-! ## Compounds -/

namespace Piece

/-- **What a piece takes**: a text takes its own, up to case, and a capture at least one character. -/
def Takes : Piece → String → Prop
  | .literal text, part => Ascii.Same text part
  | .capture _, part => part ≠ ""

/-- **A cut of a text into parts**, one for each piece, that the pieces take. -/
def Cut (ps : List Piece) (text : List Char) (parts : List String) : Prop :=
  List.Forall₂ Takes ps parts ∧ parts.flatMap String.toList = text

/-- **What a cut binds**: each capture to its part, in order. -/
def bound : List Piece → List String → Bindings
  | p :: ps, part :: parts => (p.names.map fun name => (name, part)) ++ bound ps parts
  | _, _ => []

/-- The first piece takes its part, and the others cut what is left. -/
theorem cut_cons {p : Piece} {ps : List Piece} {text : List Char} {part : String}
    {parts : List String} : Cut (p :: ps) text (part :: parts)
      ↔ p.Takes part ∧ ∃ rest, part.toList ++ rest = text ∧ Cut ps rest parts := by
  unfold Cut
  rw [List.forall₂_cons, List.flatMap_cons]
  constructor
  · rintro ⟨⟨hp, hps⟩, htext⟩
    exact ⟨hp, _, htext, hps, rfl⟩
  · rintro ⟨hp, _, htext, hps, rfl⟩
    exact ⟨⟨hp, hps⟩, htext⟩

/-- **What is matched is cut**, and the bindings are those of the cut. -/
theorem exists_cut_of_matchAll {ps : List Piece} {text : List Char} {b : Bindings}
    (h : matchAll ps text = some b) : ∃ parts, Cut ps text parts ∧ b = bound ps parts := by
  induction ps generalizing text b with
  | nil =>
    rw [matchAll] at h
    split at h
    next hnil =>
      cases h
      exact ⟨[], ⟨.nil, hnil.symm⟩, rfl⟩
    next => cases h
  | cons p ps ih =>
    cases p with
    | literal l =>
      rw [matchAll] at h
      obtain ⟨rest, hdrop, h⟩ := Option.bind_eq_some_iff.1 h
      obtain ⟨head, htext, hhead⟩ := Ascii.dropSame_eq_some_iff.1 hdrop
      obtain ⟨parts, hcut, rfl⟩ := ih h
      refine ⟨String.ofList head :: parts, cut_cons.2 ⟨?_, rest, ?_, hcut⟩, rfl⟩
      · show Ascii.Same l (String.ofList head)
        rw [Ascii.same_iff, String.toList_ofList]
        exact hhead
      · rw [String.toList_ofList]
        exact htext
    | capture name =>
      rw [matchAll] at h
      obtain ⟨⟨head, rest⟩, hmem, hone⟩ := List.exists_of_findSome?_eq_some h
      obtain ⟨b', hrest, rfl⟩ := Option.map_eq_some_iff.1 hone
      obtain ⟨hhead, htext⟩ := mem_cuts.1 hmem
      obtain ⟨parts, hcut, rfl⟩ := ih hrest
      refine ⟨String.ofList head :: parts, cut_cons.2 ⟨?_, rest, ?_, hcut⟩, rfl⟩
      · exact fun hempty => hhead (String.ofList_eq_empty_iff.1 hempty)
      · rw [String.toList_ofList]
        exact htext

/-- **What can be cut is matched**: of the cuts that are tried, one succeeds. -/
theorem isSome_matchAll_of_cut {ps : List Piece} {text : List Char} {parts : List String}
    (h : Cut ps text parts) : (matchAll ps text).isSome := by
  induction ps generalizing text parts with
  | nil =>
    obtain ⟨hparts, rfl⟩ := h
    cases hparts
    rfl
  | cons p ps ih =>
    obtain ⟨part, parts, -, -, rfl⟩ := List.forall₂_cons_left_iff.1 h.1
    obtain ⟨hp, rest, htext, hcut⟩ := cut_cons.1 h
    cases p with
    | literal l =>
      have hdrop : Ascii.dropSame l.toList text = some rest :=
        Ascii.dropSame_eq_some_iff.2 ⟨part.toList, htext, (Ascii.same_iff l part).1 hp⟩
      rw [matchAll, hdrop]
      exact ih hcut
    | capture name =>
      have hmem : (part.toList, rest) ∈ cuts text :=
        mem_cuts.2 ⟨fun hnil => hp (String.toList_eq_nil_iff.1 hnil), htext⟩
      rw [matchAll, List.findSome?_isSome_iff]
      refine ⟨(part.toList, rest), hmem, ?_⟩
      rw [Option.isSome_map]
      exact ih hcut

/-- **Pieces match exactly the texts that can be cut.** -/
theorem isSome_matchAll_iff {ps : List Piece} {text : List Char} :
    (matchAll ps text).isSome ↔ ∃ parts, Cut ps text parts := by
  constructor
  · intro h
    obtain ⟨b, hb⟩ := Option.isSome_iff_exists.1 h
    obtain ⟨parts, hcut, -⟩ := exists_cut_of_matchAll hb
    exact ⟨parts, hcut⟩
  · rintro ⟨parts, hcut⟩
    exact isSome_matchAll_of_cut hcut

/-- A cut binds the names of the pieces, in order. -/
theorem names_bound {ps : List Piece} {parts : List String} (h : ps.length = parts.length) :
    (bound ps parts).map Prod.fst = ps.flatMap names := by
  induction ps generalizing parts with
  | nil => rfl
  | cons p ps ih =>
    cases parts with
    | nil => cases h
    | cons part parts =>
      rw [bound, List.map_append, List.map_map, List.flatMap_cons, ih (Nat.succ.inj h)]
      congr 1
      exact List.map_id p.names

/-- **A piece restored from values** is its part: a text up to case, and the value of a capture. -/
def Restores (value : String → Option String) : Piece → String → Prop
  | .literal text, part => Ascii.Same text part
  | .capture name, part => value name = some part

/-- The values that a cut binds restore its parts. -/
theorem restores_of_bound {value : String → Option String} {ps : List Piece} {parts : List String}
    (h : List.Forall₂ Takes ps parts) (hvalue : ∀ p ∈ bound ps parts, value p.1 = some p.2) :
    List.Forall₂ (Restores value) ps parts := by
  induction h with
  | nil => exact .nil
  | @cons p part ps parts hp _ ih =>
    rw [bound, List.forall_mem_append] at hvalue
    refine .cons ?_ (ih hvalue.2)
    cases p with
    | literal text => exact hp
    | capture name => exact hvalue.1 (name, part) List.mem_cons_self

end Piece

/-! ## Segments -/

namespace Segment

/-- **What a segment before the wildcard takes**: a literal its own text, up to case, a capture any, and
a compound what can be cut into its pieces. -/
def Takes : Segment → String → Prop
  | .literal text, actual => Ascii.Same text actual
  | .capture _, _ => True
  | .compound pieces, actual => ∃ parts, Piece.Cut pieces actual.toList parts
  | .wildcard _, _ => False

/-- **A segment restored from values**: the pieces of a compound are restored part by part. -/
def Restores (value : String → Option String) : Segment → String → Prop
  | .literal text, actual => Ascii.Same text actual
  | .capture name, actual => value name = some actual
  | .compound pieces, actual => ∃ parts : List String,
      List.Forall₂ (Piece.Restores value) pieces parts ∧ String.join parts = actual
  | .wildcard _, _ => False

theorem isSome_matchOne_iff {s : Segment} {actual : String} :
    (s.matchOne actual).isSome ↔ s.Takes actual := by
  cases s with
  | literal text =>
    rw [matchOne]
    split
    next hsame => exact iff_of_true rfl hsame
    next hsame => exact iff_of_false Bool.false_ne_true hsame
  | capture name => exact iff_of_true rfl trivial
  | compound pieces => exact Piece.isSome_matchAll_iff
  | wildcard name => exact iff_of_false Bool.false_ne_true id

/-- **One segment**: its names are bound, and the values they are bound to restore it. -/
theorem of_matchOne {s : Segment} {actual : String} {b : Bindings}
    (h : s.matchOne actual = some b) : b.map Prod.fst = s.names
      ∧ ∀ value : String → Option String, (∀ p ∈ b, value p.1 = some p.2)
        → s.Restores value actual := by
  cases s with
  | literal text =>
    rw [matchOne] at h
    split at h
    next hsame =>
      cases h
      exact ⟨rfl, fun _ _ => hsame⟩
    next => cases h
  | capture name =>
    cases h
    exact ⟨rfl, fun value hvalue => hvalue (name, actual) List.mem_cons_self⟩
  | compound pieces =>
    obtain ⟨parts, ⟨hparts, htext⟩, rfl⟩ := Piece.exists_cut_of_matchAll h
    refine ⟨Piece.names_bound hparts.length_eq, fun value hvalue =>
      ⟨parts, Piece.restores_of_bound hparts hvalue, ?_⟩⟩
    rw [← String.toList_inj, String.toList_join]
    exact htext
  | wildcard name => cases h

/-! ## Paths -/

/-- **The segments before the wildcard**; all of them if there is none. -/
def stem (ss : List Segment) : List Segment :=
  ss.takeWhile fun s => !s.isWildcard

/-- **A path restored from values**: segment by segment before the wildcard, and the value of a named
wildcard is the rest of the path. -/
structure Restored (value : String → Option String) (ss : List Segment) (actual : List String) :
    Prop where
  /-- Each segment before the wildcard restores the segment at its place. -/
  segments : List.Forall₂ (Restores value) (stem ss) (actual.take (stem ss).length)
  /-- The wildcard has the segments that are left, with slashes between them. -/
  rest : ∀ name, .wildcard (some name) ∈ ss
    → value name = some (String.intercalate "/" (actual.drop (stem ss).length))

theorem stem_wildcard (name : Option String) (ss : List Segment) : stem (.wildcard name :: ss) = [] :=
  rfl

theorem stem_cons {s : Segment} (hs : s.isWildcard = false) (ss : List Segment) :
    stem (s :: ss) = s :: stem ss := by
  unfold stem
  rw [List.takeWhile_cons, hs]
  rfl

theorem matchAll_cons_nil {s : Segment} (hs : s.isWildcard = false) (ss : List Segment) :
    matchAll (s :: ss) [] = none := by
  cases s with
  | wildcard name => cases hs
  | literal _ | capture _ | compound _ => rfl

theorem matchAll_cons_cons {s : Segment} (hs : s.isWildcard = false) (ss : List Segment) (a : String)
    (actual : List String) : matchAll (s :: ss) (a :: actual)
      = (s.matchOne a).bind fun b => (matchAll ss actual).map (b ++ ·) := by
  cases s with
  | wildcard name => cases hs
  | literal _ | capture _ | compound _ => rfl

/-- **Segments match a path** when each one before the wildcard takes the segment at its place, and
nothing is left where there is no wildcard. -/
theorem isSome_matchAll_iff {ss : List Segment} {actual : List String} : (matchAll ss actual).isSome
    ↔ List.Forall₂ Takes (stem ss) (actual.take (stem ss).length)
      ∧ (ss.any isWildcard = false → actual.length = ss.length) := by
  induction ss generalizing actual with
  | nil =>
    cases actual with
    | nil => exact iff_of_true rfl ⟨.nil, fun _ => rfl⟩
    | cons a actual => exact iff_of_false Bool.false_ne_true (fun h => nomatch h.2 rfl)
  | cons s ss ih =>
    cases hs : s.isWildcard with
    | true =>
      -- the wildcard takes whatever there is
      cases s with
      | wildcard name =>
        refine iff_of_true (by rw [matchAll]; rfl) ⟨?_, fun hnone => by cases hnone⟩
        rw [stem_wildcard]
        exact .nil
      | literal _ | capture _ | compound _ => cases hs
    | false =>
      rw [stem_cons hs, List.any_cons, hs, Bool.false_or]
      cases actual with
      | nil =>
        rw [matchAll_cons_nil hs]
        exact iff_of_false Bool.false_ne_true (fun h => nomatch h.1)
      | cons a actual =>
        rw [matchAll_cons_cons hs, Option.isSome_bind, List.length_cons, List.length_cons,
          List.length_cons, List.take_succ_cons, List.forall₂_cons, ← isSome_matchOne_iff, and_assoc,
          Nat.succ_inj, ← ih]
        cases s.matchOne a <;> simp

/-- What takes the rest of a path is the last segment, where only the last may be a wildcard. -/
theorem eq_nil_of_wildcard {s : Segment} (hs : s.isWildcard = true) {ss : List Segment}
    (hlast : ∀ s' ∈ (s :: ss).dropLast, s'.isWildcard = false) : ss = [] := by
  by_contra hne
  rw [List.dropLast_cons_of_ne_nil hne] at hlast
  rw [hlast s List.mem_cons_self] at hs
  cases hs

theorem forall_mem_dropLast_of_cons {s : Segment} {ss : List Segment}
    (hlast : ∀ s' ∈ (s :: ss).dropLast, s'.isWildcard = false) :
    ∀ s' ∈ ss.dropLast, s'.isWildcard = false := by
  intro s' hs'
  refine hlast s' ?_
  rw [List.dropLast_cons_of_ne_nil (fun hnil => by rw [hnil] at hs'; cases hs')]
  exact List.mem_cons_of_mem s hs'

/-- A wildcard restores a path from what it binds. -/
theorem Restored.wildcard {value : String → Option String} {name : Option String}
    {actual : List String} (h : ∀ n, name = some n → value n = some (String.intercalate "/" actual)) :
    Restored value [.wildcard name] actual := by
  refine ⟨.nil, fun n hn => ?_⟩
  cases List.mem_singleton.1 hn
  exact h n rfl

/-- A segment before the wildcard restores one segment of the path, and those behind it the others. -/
theorem Restored.cons {value : String → Option String} {s : Segment} (hs : s.isWildcard = false)
    {a : String} (ha : s.Restores value a) {ss : List Segment} {actual : List String}
    (h : Restored value ss actual) : Restored value (s :: ss) (a :: actual) := by
  refine ⟨?_, fun name hname => ?_⟩
  · rw [stem_cons hs]
    exact .cons ha h.segments
  · rw [stem_cons hs]
    rcases List.mem_cons.1 hname with rfl | hname
    · cases hs
    · exact h.rest name hname

/-- **What segments bind**, where a wildcard is the last: their names, in order, to values that restore
the path. -/
theorem of_matchAll {ss : List Segment} (hlast : ∀ s ∈ ss.dropLast, s.isWildcard = false)
    {actual : List String} {b : Bindings} (h : matchAll ss actual = some b) :
    b.map Prod.fst = ss.flatMap names
      ∧ ∀ value : String → Option String, (∀ p ∈ b, value p.1 = some p.2)
        → Restored value ss actual := by
  induction ss generalizing actual b with
  | nil =>
    cases actual with
    | nil =>
      cases h
      exact ⟨rfl, fun _ _ => ⟨.nil, fun name hname => absurd hname List.not_mem_nil⟩⟩
    | cons a actual => cases h
  | cons s ss ih =>
    cases hs : s.isWildcard with
    | true =>
      obtain rfl := eq_nil_of_wildcard hs hlast
      cases s with
      | wildcard name =>
        rw [matchAll] at h
        cases h
        refine ⟨?_, fun value hvalue => Restored.wildcard fun n hn => ?_⟩
        · rw [List.map_map, List.flatMap_singleton]
          exact List.map_id name.toList
        · -- the wildcard is named, and bound to the whole rest
          subst hn
          exact hvalue (n, _) List.mem_cons_self
      | literal _ | capture _ | compound _ => cases hs
    | false =>
      cases actual with
      | nil =>
        rw [matchAll_cons_nil hs] at h
        cases h
      | cons a actual =>
        rw [matchAll_cons_cons hs] at h
        obtain ⟨b₁, hone, h⟩ := Option.bind_eq_some_iff.1 h
        obtain ⟨b₂, hall, rfl⟩ := Option.map_eq_some_iff.1 h
        obtain ⟨hnames, hrestores⟩ := of_matchOne hone
        obtain ⟨hnames', hrestored⟩ := ih (forall_mem_dropLast_of_cons hlast) hall
        refine ⟨?_, fun value hvalue => ?_⟩
        · rw [List.map_append, List.flatMap_cons, hnames, hnames']
        · rw [List.forall_mem_append] at hvalue
          exact (hrestored value hvalue.2).cons hs (hrestores value hvalue.1)

end Segment

/-- **A bound name is found** with its value, if no two of the names are the same. -/
theorem Bindings.get?_of_mem {b : Bindings}
    (hb : (b.map Prod.fst).Pairwise fun m n => ¬ Ascii.Same m n) :
    ∀ p ∈ b, b.get? p.1 = some p.2 :=
  fun _ hp => congrArg (Option.map Prod.snd) (Ascii.find?_of_mem (List.pairwise_map.1 hb) hp)

namespace Template

/-- **The segments of a template before its wildcard**; all of them if it has none. -/
def stem (t : Template) : List Segment :=
  Segment.stem t.segments

/-- A compiled template has a wildcard only where it ends in one. -/
theorem any_isWildcard_of_compile {text : String} {t : Template} (ht : compile text = .ok t) :
    t.segments.any Segment.isWildcard = t.endsInWildcard := by
  have hlast := isWildcard_dropLast_of_compile ht
  unfold endsInWildcard
  rcases List.eq_nil_or_concat' t.segments with hnil | ⟨before, last, hss⟩
  · rw [hnil]
    rfl
  · rw [hss, List.dropLast_concat] at hlast
    have hbefore : before.any Segment.isWildcard = false :=
      List.any_eq_false.2 fun s hs => Bool.eq_false_iff.1 (hlast s hs)
    rw [hss, List.any_append, hbefore, List.getLast?_concat, Option.any_some, List.any_cons,
      List.any_nil, Bool.or_false, Bool.false_or]

/-- The segments before the wildcard are all but the last. -/
theorem stem_eq_of_compile {text : String} {t : Template} (ht : compile text = .ok t) :
    t.stem = if t.endsInWildcard then t.segments.dropLast else t.segments := by
  have hlast := isWildcard_dropLast_of_compile ht
  unfold stem Segment.stem endsInWildcard
  rcases List.eq_nil_or_concat' t.segments with hnil | ⟨before, last, hss⟩
  · rw [hnil]
    rfl
  · rw [hss, List.dropLast_concat] at hlast
    rw [hss, List.takeWhile_append_of_pos fun s hs => by rw [hlast s hs]; rfl,
      List.getLast?_concat, Option.any_some, List.dropLast_concat]
    cases hw : last.isWildcard <;> simp [hw]

/-- **What a compiled template matches**: the paths with as many segments as the template, or at least
those before its wildcard, of which each segment before the wildcard takes the one at its place. A match
binds the names of the path, in order, and the bound values restore the path from the template. -/
theorem matchPath_iff {text : String} {t : Template} (ht : compile text = .ok t)
    (actual : List String) :
    ((t.matchPath actual).isSome
      ↔ (if t.endsInWildcard then t.segments.length - 1 ≤ actual.length
          else actual.length = t.segments.length)
        ∧ List.Forall₂ Segment.Takes t.stem (actual.take t.stem.length))
    ∧ ∀ b, t.matchPath actual = some b
      → b.map Prod.fst = t.pathNames ∧ Segment.Restored b.get? t.segments actual := by
  refine ⟨?_, fun b hb => ?_⟩
  · have hstem := stem_eq_of_compile ht
    rw [matchPath, Segment.isSome_matchAll_iff, any_isWildcard_of_compile ht, and_comm]
    refine and_congr_left fun htakes : List.Forall₂ Segment.Takes t.stem _ => ?_
    cases hw : t.endsInWildcard with
    | true =>
      -- as the segments before the wildcard have some at their places, there are enough of them
      rw [hw, if_pos rfl] at hstem
      have hlength : t.stem.length ≤ actual.length := by
        have := htakes.length_eq
        rw [List.length_take] at this
        omega
      rw [hstem, List.length_dropLast] at hlength
      exact iff_of_true (fun h => nomatch h) hlength
    | false => exact ⟨fun h => h rfl, fun h _ => h⟩
  · obtain ⟨hnames, hrestored⟩ := Segment.of_matchAll (isWildcard_dropLast_of_compile ht) hb
    refine ⟨hnames, hrestored _ (Bindings.get?_of_mem ?_)⟩
    rw [hnames]
    exact (List.pairwise_append.1 (pairwise_names_of_compile ht)).1

/-- A file with two dots in its name, and what follows it: the first name takes as little as it can. A
file without a name, or without a dot, does not match. -/
theorem matchPath_iff_files :
    let t : Template := ⟨"/users/\x7bid\x7d/\x7bname\x7d.\x7bext\x7d/\x7b*rest\x7d",
      [.literal "users", .capture "id", .compound [.capture "name", .literal ".", .capture "ext"],
        .wildcard (some "rest")], []⟩
    compile t.text = .ok t
      ∧ t.matchPath ["Users", "7", "log.tar.gz", "a", "b"] = some
        [("id", "7"), ("name", "log"), ("ext", "tar.gz"), ("rest", "a/b")]
      ∧ Segment.Restored (Bindings.get? [("id", "7"), ("name", "log"), ("ext", "tar.gz"),
        ("rest", "a/b")]) t.segments ["Users", "7", "log.tar.gz", "a", "b"]
      ∧ ¬ List.Forall₂ Segment.Takes t.stem ["users", "7", ".gz"]
      ∧ ¬ List.Forall₂ Segment.Takes t.stem ["users", "7", "log"] := by
  intro t
  have ht : compile t.text = .ok t := by decide +kernel
  have hmatch : t.matchPath ["Users", "7", "log.tar.gz", "a", "b"] = some
      [("id", "7"), ("name", "log"), ("ext", "tar.gz"), ("rest", "a/b")] := by decide +kernel
  have hdot : t.matchPath ["users", "7", ".gz"] = none := by decide +kernel
  have hlog : t.matchPath ["users", "7", "log"] = none := by decide +kernel
  refine ⟨ht, hmatch, ((matchPath_iff ht _).2 _ hmatch).2, fun h => ?_, fun h => ?_⟩
  · have := (matchPath_iff ht ["users", "7", ".gz"]).1.2 ⟨by decide, h⟩
    rw [hdot] at this
    cases this
  · have := (matchPath_iff ht ["users", "7", "log"]).1.2 ⟨by decide, h⟩
    rw [hlog] at this
    cases this

end Template

end Switchboard
