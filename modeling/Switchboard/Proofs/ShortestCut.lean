import Mathlib.Data.List.Lex
import Switchboard.Proofs.PathMatching

/-!
# The cut that a compound match takes

A text can often be cut for the pieces of a compound in more than one way: `{name}.{ext}` cuts
`log.tar.gz` after `log` and after `log.tar`. That a match binds the parts of *some* cut does not say
what a request gets. Matching promises more: the first capture takes as little as any cut gives it, the
second as little as any cut gives it that agrees on the first, and so on. So the **lengths** of the
captured parts, read in order, come before those of every other cut in the lexicographic order
(`Piece.Shortest`). This settles the parts, as two cuts of one text with equal lengths are one cut.

That the shortest start is tried first is not the reason by itself. A start is given up when the pieces
that are left do not match the rest, and the match that is found is the least one only since *every*
start before it was given up rightly, which is that what can be cut is matched. The induction is on the
pieces, and at each of them the starts that the piece takes fall into those that were given up, the one
that was taken, and those that were not tried, which are all longer.

To have one step for texts and captures, matching is read as a search through the starts that a piece
takes (`Piece.starts`, `Piece.matchAll_cons`). A text takes at most one.
-/

namespace Switchboard

/-- The ways to cut a text come in the order of their lengths. -/
theorem pairwise_cuts (text : List Char) :
    (cuts text).Pairwise fun p q => p.1.length < q.1.length := by
  induction text with
  | nil => exact .nil
  | cons c text ih =>
    rw [cuts, List.pairwise_cons]
    constructor
    · -- the others begin with the first character and go on
      intro q hq
      obtain ⟨⟨head, rest⟩, hmem, rfl⟩ := List.mem_map.1 hq
      show 1 < (c :: head).length
      rw [List.length_cons]
      exact Nat.succ_lt_succ (List.length_pos_of_ne_nil (mem_cuts.1 hmem).1)
    · rw [List.pairwise_map]
      exact ih.imp fun h => Nat.succ_lt_succ h

namespace Piece

/-! ## The starts that a piece takes -/

/-- **The starts of a text that a piece takes**, each with the rest of the text, the shortest first. -/
def starts : Piece → List Char → List (List Char × List Char)
  | .literal l, text =>
    ((Ascii.dropSame l.toList text).map fun rest => (text.take l.toList.length, rest)).toList
  | .capture _, text => cuts text

theorem mem_starts {p : Piece} {text : List Char} {q : List Char × List Char} :
    q ∈ starts p text ↔ p.Takes (String.ofList q.1) ∧ q.1 ++ q.2 = text := by
  obtain ⟨head, rest⟩ := q
  cases p with
  | capture name =>
    show (head, rest) ∈ cuts text ↔ String.ofList head ≠ "" ∧ head ++ rest = text
    rw [mem_cuts, ne_eq, ne_eq, String.ofList_eq_empty_iff]
  | literal l =>
    show _ ↔ Ascii.Same l (String.ofList head) ∧ head ++ rest = text
    rw [starts, Option.mem_toList, Option.map_eq_some_iff, Ascii.same_iff, String.toList_ofList]
    constructor
    · rintro ⟨rest', hdrop, h⟩
      obtain ⟨head', htext, hsame⟩ := Ascii.dropSame_eq_some_iff.1 hdrop
      have hlength : l.toList.length = head'.length := by simpa using congrArg List.length hsame
      cases h
      rw [← htext, hlength, List.take_left']
      · exact ⟨hsame, rfl⟩
      · rfl
    · rintro ⟨hsame, rfl⟩
      have hlength : l.toList.length = head.length := by simpa using congrArg List.length hsame
      refine ⟨rest, Ascii.dropSame_eq_some_iff.2 ⟨head, rfl, hsame⟩, ?_⟩
      rw [hlength, List.take_left' rfl]

/-- Of two starts that a piece takes the later one is longer, and only a capture takes two. -/
theorem pairwise_starts (p : Piece) (text : List Char) :
    (starts p text).Pairwise fun q q' => p.isCapture = true ∧ q.1.length < q'.1.length := by
  cases p with
  | capture name => exact (pairwise_cuts text).imp fun h => ⟨rfl, h⟩
  | literal l =>
    rw [starts]
    cases Ascii.dropSame l.toList text with
    | none => exact .nil
    | some rest => exact List.pairwise_singleton _ _

/-- **Matching is a search** through the starts that the first piece takes: the first one counts whose
rest the other pieces match. -/
theorem matchAll_cons (p : Piece) (ps : List Piece) (text : List Char) :
    matchAll (p :: ps) text = (starts p text).findSome? fun q =>
      (matchAll ps q.2).map ((p.names.map fun name => (name, String.ofList q.1)) ++ ·) := by
  cases p with
  | capture name => rfl
  | literal l =>
    rw [matchAll, starts]
    cases Ascii.dropSame l.toList text with
    | none => rfl
    | some rest =>
      show matchAll ps rest = [_].findSome? _
      rw [List.findSome?_singleton]
      exact Option.map_id'.symm

/-- **A start ends between two characters** of the whole text, wherever in it the start begins. -/
theorem isValid_of_mem_starts {actual : String} {before rest : List Char}
    (hactual : before ++ rest = actual.toList) {p : Piece} {q : List Char × List Char}
    (hq : q ∈ starts p rest) :
    (String.ofList (before ++ q.1)).rawEndPos.IsValid actual := by
  rw [String.Pos.Raw.isValid_iff_exists_append]
  refine ⟨String.ofList (before ++ q.1), String.ofList q.2, ?_, rfl⟩
  rw [← String.toList_inj, String.toList_append, String.toList_ofList, String.toList_ofList,
    List.append_assoc, (mem_starts.1 hq).2, hactual]

/-! ## The shortest cut -/

/-- **The lengths of what a cut captures**, in order. -/
def lengths (ps : List Piece) (parts : List String) : List Nat :=
  (bound ps parts).map fun b => b.2.length

/-- **The shortest cut of a text**: a cut that leaves every other one behind, by the lengths of what
they capture. -/
def Shortest (ps : List Piece) (text : List Char) (parts : List String) : Prop :=
  Cut ps text parts ∧ ∀ parts', Cut ps text parts'
    → parts' = parts ∨ List.Lex (· < ·) (lengths ps parts) (lengths ps parts')

theorem lengths_cons (p : Piece) (ps : List Piece) (part : String) (parts : List String) :
    lengths (p :: ps) (part :: parts)
      = (p.names.map fun _ => part.length) ++ lengths ps parts := by
  unfold lengths
  rw [bound, List.map_append, List.map_map]
  rfl

/-- A capture that takes less comes first, whatever follows. -/
theorem lengths_lt_of_length_lt {p : Piece} (hp : p.isCapture = true) {part part' : String}
    (h : part.length < part'.length) (ps : List Piece) (parts parts' : List String) :
    List.Lex (· < ·) (lengths (p :: ps) (part :: parts)) (lengths (p :: ps) (part' :: parts')) := by
  cases p with
  | literal text => cases hp
  | capture name =>
    rw [lengths_cons, lengths_cons]
    exact .rel h

/-- Only the empty list of parts is a cut for no pieces. -/
theorem shortest_nil : Shortest [] [] [] :=
  ⟨⟨.nil, rfl⟩, fun _ hcut => Or.inl (List.forall₂_nil_left_iff.1 hcut.1)⟩

/-- **The shortest cut, piece by piece.** The first piece takes a start of the text, no start before it
leaves a rest that the other pieces can cut, and theirs is the shortest cut of its rest. -/
theorem Shortest.cons {p : Piece} {ps : List Piece} {text : List Char}
    {before after : List (List Char × List Char)} {q : List Char × List Char}
    (hstarts : starts p text = before ++ q :: after) {parts : List String}
    (hbefore : ∀ q' ∈ before, ¬ ∃ parts', Cut ps q'.2 parts') (h : Shortest ps q.2 parts) :
    Shortest (p :: ps) text (String.ofList q.1 :: parts) := by
  have hmem : q ∈ starts p text := by simp [hstarts]
  obtain ⟨htakes, htext⟩ := mem_starts.1 hmem
  refine ⟨cut_cons.2 ⟨htakes, q.2, by rwa [String.toList_ofList], h.1⟩, fun parts' hcut => ?_⟩
  obtain ⟨part', parts', -, -, rfl⟩ := List.forall₂_cons_left_iff.1 hcut.1
  obtain ⟨htakes', rest', htext', hcut'⟩ := cut_cons.1 hcut
  have hmem' : (part'.toList, rest') ∈ starts p text :=
    mem_starts.2 ⟨by rwa [String.ofList_toList], htext'⟩
  have horder := pairwise_starts p text
  rw [hstarts] at hmem' horder
  rcases List.mem_append.1 hmem' with hgiven | htried
  · exact absurd ⟨parts', hcut'⟩ (hbefore _ hgiven)
  rcases List.mem_cons.1 htried with heq | hlater
  · -- the same start, so the other pieces decide
    subst heq
    rw [String.ofList_toList]
    refine (h.2 parts' hcut').imp (congrArg (part' :: ·)) fun hless => ?_
    rw [lengths_cons, lengths_cons]
    exact List.Lex.append_left _ hless _
  · obtain ⟨hp, hlonger⟩ :=
      (List.pairwise_cons.1 (List.pairwise_append.1 horder).2.1).1 _ hlater
    refine Or.inr (lengths_lt_of_length_lt hp ?_ ps parts parts')
    rwa [String.length_ofList, ← String.length_toList]

/-- **A match takes the shortest cut**, and binds its parts. -/
theorem exists_shortest_of_matchAll {ps : List Piece} {text : List Char} {b : Bindings}
    (h : matchAll ps text = some b) : ∃ parts, Shortest ps text parts ∧ b = bound ps parts := by
  induction ps generalizing text b with
  | nil =>
    rw [matchAll] at h
    split at h
    next hnil =>
      cases h
      exact ⟨[], hnil ▸ shortest_nil, rfl⟩
    next => cases h
  | cons p ps ih =>
    rw [matchAll_cons] at h
    obtain ⟨before, q, after, hstarts, hq, hbefore⟩ := List.findSome?_eq_some_iff.1 h
    obtain ⟨b', hrest, rfl⟩ := Option.map_eq_some_iff.1 hq
    obtain ⟨parts, hshortest, rfl⟩ := ih hrest
    refine ⟨String.ofList q.1 :: parts, Shortest.cons hstarts (fun q' hq' hcut => ?_) hshortest, rfl⟩
    have hnone := Option.map_eq_none_iff.1 (hbefore q' hq')
    rw [← isSome_matchAll_iff, hnone] at hcut
    cases hcut

end Piece

namespace Template

/-- No name is bound twice within one compound of a compiled template. -/
theorem pairwise_names_of_mem {text : String} {t : Template} (ht : compile text = .ok t)
    {s : Segment} (hs : s ∈ t.segments) : s.names.Pairwise fun m n => ¬ Ascii.Same m n := by
  have hall := (List.pairwise_append.1 (pairwise_names_of_compile ht)).1
  refine hall.sublist ?_
  show s.names.Sublist (t.segments.flatMap Segment.names)
  rw [List.flatMap_def]
  exact List.sublist_flatten_of_mem (List.mem_map_of_mem hs)

/-- **A compound match takes the shortest cut.** A compound of a compiled template matches exactly the
texts that can be cut for its pieces. What it binds are the parts of one cut and nothing besides: each
name of the pieces once, in their order, to its part in the shortest cut. No start that matching tries,
at any place of the text, ends within a character. -/
theorem matchOne_compound_iff {text : String} {t : Template} (ht : compile text = .ok t)
    {ps : List Piece} (hps : .compound ps ∈ t.segments) (actual : String) :
    (((Segment.compound ps).matchOne actual).isSome ↔ ∃ parts, Piece.Cut ps actual.toList parts)
    ∧ (∀ b, (Segment.compound ps).matchOne actual = some b
      → (∃ parts, Piece.Shortest ps actual.toList parts ∧ b = Piece.bound ps parts)
        ∧ b.map Prod.fst = ps.flatMap Piece.names
        ∧ (b.map Prod.fst).Pairwise fun m n => ¬ Ascii.Same m n)
    ∧ ∀ p ∈ ps, ∀ before rest, before ++ rest = actual.toList → ∀ q ∈ Piece.starts p rest,
      (String.ofList (before ++ q.1)).rawEndPos.IsValid actual := by
  refine ⟨Piece.isSome_matchAll_iff, fun b hb => ?_,
    fun p _ before rest hactual q hq => Piece.isValid_of_mem_starts hactual hq⟩
  obtain ⟨parts, hshortest, hbound⟩ := Piece.exists_shortest_of_matchAll hb
  have hnames : b.map Prod.fst = ps.flatMap Piece.names := by
    rw [hbound]
    exact Piece.names_bound hshortest.1.1.length_eq
  refine ⟨⟨parts, hshortest, hbound⟩, hnames, ?_⟩
  rw [hnames]
  exact pairwise_names_of_mem ht hps

/-- A text with five cuts. The year ends at the first dash, not at the second, and the month goes on to
the first dash that an `É` follows; a small `é` is another character, and leaves no cut at all. -/
theorem matchOne_compound_iff_dates :
    let ps : List Piece := [.capture "année", .literal "-", .capture "mois", .literal "-É",
      .capture "jour"]
    let t : Template := ⟨"/\x7bannée\x7d-\x7bmois\x7d-É\x7bjour\x7d", [.compound ps], []⟩
    compile t.text = .ok t
      ∧ (Segment.compound ps).matchOne "é-à-b-É-É1" = some
        [("année", "é"), ("mois", "à-b"), ("jour", "-É1")]
      ∧ (∃ parts, Piece.Shortest ps "é-à-b-É-É1".toList parts
        ∧ [("année", "é"), ("mois", "à-b"), ("jour", "-É1")] = Piece.bound ps parts)
      ∧ ¬ ∃ parts, Piece.Cut ps "é-à-é1".toList parts := by
  intro ps t
  have ht : compile t.text = .ok t := by decide +kernel
  have hps : .compound ps ∈ t.segments := List.mem_cons_self
  have hmatch : (Segment.compound ps).matchOne "é-à-b-É-É1" = some
      [("année", "é"), ("mois", "à-b"), ("jour", "-É1")] := by decide +kernel
  have hcase : (Segment.compound ps).matchOne "é-à-é1" = none := by decide +kernel
  refine ⟨ht, hmatch, ((matchOne_compound_iff ht hps _).2.1 _ hmatch).1, fun hcut => ?_⟩
  have := (matchOne_compound_iff ht hps "é-à-é1").1.2 hcut
  rw [hcase] at this
  cases this

end Template

end Switchboard
