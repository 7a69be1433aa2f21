import Mathlib.Data.List.Forall2
import Switchboard.Proofs.Constraints

/-!
# What a compiled path is made of

Reading a template builds segments that obey more than their types say. A literal has some text, also
after decoding, since no escape stands for nothing. A compound is text mixed with captures: it has at
least two pieces, one of them a capture, and no two pieces of text side by side, because text that is
not interrupted by a marker is read as one piece (`Piece.Spaced`).

These facts are collected in `Segment.WellFormed`, and every segment of a compiled template is so
(`Template.wellFormed_of_compile`). They are what makes the look of a segment say what the segment is.

Of the segments together two things are known: a wildcard is the last one
(`Template.isWildcard_dropLast_of_compile`), and no name is bound twice, path and query taken together
(`Template.pairwise_names_of_compile`).
-/

namespace Switchboard

/-! ## Decoding keeps some text -/

namespace Utf8

/-- A character that has begun becomes some text, whatever follows. -/
theorem decodeFrom_some_ne_nil (p : Pending) (bs : List UInt8) : decodeFrom (some p) bs ≠ [] := by
  induction bs generalizing p with
  | nil => simp [decodeFrom]
  | cons b bs ih =>
    unfold decodeFrom
    split
    · cases p.next b with
      | whole c => simp
      | start q => exact ih q
      | invalid => simp
    · cases lead b <;> simp

theorem decodeLossy_ne_nil {bs : List UInt8} (h : bs ≠ []) : decodeLossy bs ≠ [] := by
  obtain ⟨b, bs, rfl⟩ := List.exists_cons_of_ne_nil h
  unfold decodeLossy decodeFrom
  cases lead b with
  | whole c => simp
  | start p => exact decodeFrom_some_ne_nil p bs
  | invalid => simp

end Utf8

namespace Percent

theorem unescape_ne_nil {bs : List UInt8} (h : bs ≠ []) : unescape bs ≠ [] := by
  unfold unescape
  split
  · exact absurd rfl h
  · split
    · split <;> simp
    · simp
  · simp

/-- **Some text is some text when decoded.** -/
theorem decode_ne_nil {cs : List Char} (h : cs ≠ []) : decode cs ≠ [] := by
  obtain ⟨c, cs, rfl⟩ := List.exists_cons_of_ne_nil h
  refine Utf8.decodeLossy_ne_nil (unescape_ne_nil ?_)
  unfold Utf8.encode
  rw [List.flatMap_cons]
  exact List.append_ne_nil_of_left_ne_nil String.utf8EncodeChar_ne_nil _

end Percent

theorem Path.decodeSegment_ne_empty {segment : String} (h : segment ≠ "") :
    decodeSegment segment ≠ "" := by
  unfold decodeSegment
  rw [ne_eq, String.ofList_eq_empty_iff]
  exact Percent.decode_ne_nil (fun hnil => h (String.toList_eq_nil_iff.1 hnil))

/-- A segment of a path holds some text. -/
theorem Path.ne_empty_of_mem_segments {path segment : String} (h : segment ∈ segments path) :
    segment ≠ "" := by
  obtain ⟨cs, hcs, rfl⟩ := List.mem_map.1 h
  rw [ne_eq, String.ofList_eq_empty_iff]
  exact of_decide_eq_true (List.mem_filter.1 hcs).2

/-! ## Reading that succeeds -/

/-- What is made of a reading that succeeds is made of what was read. -/
theorem exists_of_map_eq_ok {ε α β : Type} {f : α → β} {x : Except ε α} {b : β}
    (h : f <$> x = .ok b) : ∃ a, x = .ok a ∧ f a = b := by
  cases x with
  | error e => cases h
  | ok a => exact ⟨a, rfl, Except.ok.inj h⟩

/-- A reading element by element gives one result for each element. -/
theorem forall₂_of_mapM_ok {ε α β : Type} {f : α → Except ε β} {l : List α} {bs : List β}
    (h : l.mapM f = .ok bs) : List.Forall₂ (fun a b => f a = .ok b) l bs := by
  induction l generalizing bs with
  | nil =>
    cases h
    exact .nil
  | cons a l ih =>
    rw [List.mapM_cons] at h
    obtain ⟨b, hb, h⟩ := ok_of_bind_eq_ok h
    obtain ⟨rest, hrest, h⟩ := ok_of_bind_eq_ok h
    cases h
    exact .cons hb (ih hrest)

/-- A reading element by element succeeds with what each element is read as. -/
theorem mapM_eq_ok_iff {ε α β : Type} {f : α → Except ε β} {l : List α} {bs : List β} :
    l.mapM f = .ok bs ↔ List.Forall₂ (fun a b => f a = .ok b) l bs := by
  refine ⟨forall₂_of_mapM_ok, fun h => ?_⟩
  induction h with
  | nil => rfl
  | cons hab _ ih =>
    rw [List.mapM_cons, hab]
    dsimp only [bind, Except.bind]
    rw [ih]
    rfl

/-- What stands in the second of two lists that agree has its like in the first. -/
theorem exists_left_of_forall₂ {α β : Type} {R : α → β → Prop} {l : List α} {bs : List β}
    (h : List.Forall₂ R l bs) : ∀ b ∈ bs, ∃ a ∈ l, R a b := by
  induction h with
  | nil => exact fun b hb => absurd hb List.not_mem_nil
  | @cons a b l bs hab _ ih =>
    intro b' hb'
    rcases List.mem_cons.1 hb' with rfl | hb'
    · exact ⟨a, List.mem_cons_self, hab⟩
    · obtain ⟨a', ha', hR⟩ := ih b' hb'
      exact ⟨a', List.mem_cons_of_mem a ha', hR⟩

/-! ## Pieces -/

namespace Piece

/-- **Spaced pieces**: no text is empty, and no two texts stand side by side. -/
def Spaced : List Piece → Prop
  | [] => True
  | .capture _ :: ps => Spaced ps
  | .literal text :: ps => text ≠ "" ∧ (∀ p ∈ ps.head?, p.isCapture = true) ∧ Spaced ps

/-- A text before a capture. -/
theorem spaced_ofText_append {text : List Char} {name : String} {ps : List Piece} (h : Spaced ps) :
    Spaced (ofText text ++ .capture name :: ps) := by
  unfold ofText
  by_cases ht : text = []
  · rw [if_pos ht]
    exact h
  · rw [if_neg ht]
    refine ⟨fun hempty => ht (String.ofList_eq_empty_iff.1 hempty), fun p hp => ?_, h⟩
    obtain rfl := Option.some.inj hp
    rfl

/-- **What is read is spaced.** Inside a marker, the next piece is the one that the marker stands
for. -/
theorem spaced_of_pieces {scan : PartScan} {cs : List Char} {ps : List Piece}
    (h : scan.pieces cs = .ok ps) :
    match scan with
    | .outside _ => Spaced ps
    | .inside _ => ∃ name rest, ps = .capture name :: rest ∧ Spaced rest := by
  induction cs generalizing scan ps with
  | nil =>
    cases scan with
    | inside name => cases h
    | outside text =>
      obtain rfl := Except.ok.inj h
      show Spaced (ofText text)
      unfold ofText
      split
      · trivial
      next ht =>
        exact ⟨fun hempty => ht (String.ofList_eq_empty_iff.1 hempty), fun p hp => (by cases hp),
          trivial⟩
  | cons c cs ih =>
    cases scan with
    | outside text =>
      rw [PartScan.pieces] at h
      split at h
      · cases h
      split at h
      · -- a marker begins
        obtain ⟨rest, hrest, rfl⟩ := exists_of_map_eq_ok h
        obtain ⟨name, rest, rfl, hspaced⟩ := ih hrest
        exact spaced_ofText_append hspaced
      · exact ih h
    | inside name =>
      rw [PartScan.pieces] at h
      split at h
      · cases h
      split at h
      · split at h
        · cases h
        · obtain ⟨rest, hrest, rfl⟩ := exists_of_map_eq_ok h
          exact ⟨_, rest, rfl, ih hrest⟩
      · exact ih h

/-- Decoding does not change what is a capture. -/
theorem isCapture_decoded (p : Piece) : p.decoded.isCapture = p.isCapture := by
  cases p <;> rfl

theorem spaced_map_decoded {ps : List Piece} (h : Spaced ps) : Spaced (ps.map decoded) := by
  induction ps with
  | nil => trivial
  | cons p ps ih =>
    cases p with
    | capture name => exact ih h
    | literal text =>
      obtain ⟨htext, hnext, hspaced⟩ := h
      refine ⟨Path.decodeSegment_ne_empty htext, fun q hq => ?_, ih hspaced⟩
      rw [List.head?_map] at hq
      obtain ⟨p, hp, rfl⟩ := Option.map_eq_some_iff.1 hq
      rw [isCapture_decoded]
      exact hnext p hp

end Piece

/-! ## Segments -/

/-- **What a segment of a compiled path is like.** -/
inductive Segment.WellFormed : Segment → Prop where
  /-- A literal has some text. -/
  | literal {text : String} (filled : text ≠ "") : WellFormed (.literal text)
  /-- A capture. -/
  | capture (name : String) : WellFormed (.capture name)
  /-- A compound has pieces of text and captures, spaced. -/
  | compound {pieces : List Piece} (spaced : Piece.Spaced pieces)
    (mixed : pieces.any Piece.isCapture = true) (several : 2 ≤ pieces.length) :
    WellFormed (.compound pieces)
  /-- A wildcard. -/
  | wildcard (name : Option String) : WellFormed (.wildcard name)

namespace Segment

/-- A single marker is a capture or a wildcard. -/
theorem wellFormed_of_ofName {name : String} {s : Segment} (h : ofName name = .ok s) :
    s.WellFormed := by
  unfold ofName at h
  split at h
  · cases h
  · cases h
    exact .wildcard _
  · cases h
    exact .capture _

/-- The segment that the pieces of a part stand for is well formed. -/
theorem wellFormed_of_ofPieces {part : String} {pieces : List Piece} {s : Segment}
    (hpart : part ≠ "") (hspaced : Piece.Spaced pieces) (h : ofPieces part pieces = .ok s) :
    s.WellFormed := by
  unfold ofPieces at h
  split at h
  · exact wellFormed_of_ofName h
  next hsingle =>
    split at h
    next hany =>
      unfold ofMixed at h
      split at h
      · cases h
      split at h
      · cases h
      cases h
      refine .compound (Piece.spaced_map_decoded hspaced) ?_ ?_
      · rw [List.any_map, show Piece.isCapture ∘ Piece.decoded = Piece.isCapture from
          funext Piece.isCapture_decoded]
        exact hany
      · -- one piece alone would be a capture, and that is another kind of segment
        rw [List.length_map]
        match pieces, hany with
        | [.capture name], _ => exact absurd rfl (hsingle name)
        | [.literal text], hany => cases hany
        | _ :: _ :: _, _ => simp
    · cases h
      exact .literal (Path.decodeSegment_ne_empty hpart)

/-- **A compiled segment is well formed.** -/
theorem wellFormed_of_compile {part : String} {s : Segment} (hpart : part ≠ "")
    (h : compile part = .ok s) : s.WellFormed := by
  unfold compile at h
  split at h
  · cases h
    exact .wildcard none
  · obtain ⟨pieces, hpieces, h⟩ := ok_of_bind_eq_ok h
    refine wellFormed_of_ofPieces hpart ?_ h
    exact Piece.spaced_of_pieces (ok_of_mapError_eq_ok hpieces)

end Segment

namespace Template

/-- What reading a path comes to: its segments are read one by one, and a wildcard is the last. -/
theorem compilePath_eq_ok_iff {path : List Char} {segments : List Segment} :
    compilePath path = .ok segments
      ↔ (Path.segments (String.ofList path)).mapM Segment.compile = .ok segments
        ∧ segments.dropLast.any Segment.isWildcard = false := by
  unfold compilePath
  constructor
  · intro h
    obtain ⟨read, hread, h⟩ := ok_of_bind_eq_ok h
    split at h
    · cases h
    next hlast =>
      cases h
      exact ⟨hread, Bool.eq_false_iff.2 hlast⟩
  · rintro ⟨hread, hlast⟩
    rw [hread]
    dsimp only [bind, Except.bind]
    rw [hlast]
    rfl

/-- **The segments of a compiled template are well formed.** -/
theorem wellFormed_of_compile {text : String} {t : Template} (h : compile text = .ok t) :
    ∀ s ∈ t.segments, s.WellFormed := by
  obtain ⟨-, hpath, -⟩ := compile_eq_ok_iff.1 h
  intro s hs
  have hread := forall₂_of_mapM_ok (compilePath_eq_ok_iff.1 hpath).1
  obtain ⟨part, hpart, hcompile⟩ := exists_left_of_forall₂ hread s hs
  exact Segment.wellFormed_of_compile (Path.ne_empty_of_mem_segments hpart) hcompile

/-- **A wildcard of a compiled template is its last segment.** -/
theorem isWildcard_dropLast_of_compile {text : String} {t : Template} (h : compile text = .ok t) :
    ∀ s ∈ t.segments.dropLast, s.isWildcard = false := by
  obtain ⟨-, hpath, -⟩ := compile_eq_ok_iff.1 h
  intro s hs
  exact Bool.eq_false_iff.2 (List.any_eq_false.1 (compilePath_eq_ok_iff.1 hpath).2 s hs)

/-! ## Names -/

/-- No name is repeated when no two of the names are the same, and none is one of those seen before. -/
theorem firstRepeated?_eq_none_iff {seen names : List String} : firstRepeated? seen names = none
    ↔ names.Pairwise (fun a b => ¬ Ascii.Same a b) ∧ ∀ s ∈ seen, ∀ n ∈ names, ¬ Ascii.Same s n := by
  induction names generalizing seen with
  | nil => exact ⟨fun _ => ⟨.nil, fun _ _ n hn => absurd hn List.not_mem_nil⟩, fun _ => rfl⟩
  | cons name names ih =>
    unfold firstRepeated?
    split
    next hseen =>
      refine iff_of_false (nomatch ·) ?_
      rintro ⟨-, hfresh⟩
      obtain ⟨s, hs, hsame⟩ := List.any_eq_true.1 hseen
      exact hfresh s hs name List.mem_cons_self (of_decide_eq_true hsame)
    next hseen =>
      have hname : ∀ s ∈ seen, ¬ Ascii.Same s name :=
        fun s hs hsame => hseen (List.any_eq_true.2 ⟨s, hs, decide_eq_true hsame⟩)
      rw [ih, List.pairwise_cons, List.forall_mem_cons]
      constructor
      · rintro ⟨hnames, hnew, hfresh⟩
        exact ⟨⟨hnew, hnames⟩, fun s hs => List.forall_mem_cons.2 ⟨hname s hs, hfresh s hs⟩⟩
      · rintro ⟨⟨hnew, hnames⟩, hfresh⟩
        exact ⟨hnames, hnew, fun s hs => (List.forall_mem_cons.1 (hfresh s hs)).2⟩

/-- **No two names of a compiled template are the same.** -/
theorem pairwise_names_of_compile {text : String} {t : Template} (h : compile text = .ok t) :
    t.names.Pairwise fun a b => ¬ Ascii.Same a b := by
  obtain ⟨-, -, -, hnames⟩ := compile_eq_ok_iff.1 h
  exact (firstRepeated?_eq_none_iff.1 hnames).1

end Template

end Switchboard
