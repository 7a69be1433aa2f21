import Mathlib.Data.List.Forall2
import Switchboard.Proofs.Segments

/-!
# What a shape says of a path

The shape of a template is one text: the looks of its segments with slashes between them, where fixed
text is shown in upper case, a capture as `{}` and a wildcard as `*`. Templates are grouped by it, so it
should tell two paths apart exactly if they **look alike**, segment by segment and piece by piece
(`Template.LooksLike`).

Paths that look alike have one shape, always. The converse would hold if fixed text could not hold the
characters that the shape is written with. As it was typed it cannot: slashes separate segments, braces
make markers, and a star alone is a wildcard. But fixed text is decoded before it is put into the shape,
and `%2F`, `%7B%7D` and `%2A` are decoded to just these. The path `/a%2Fb` has one segment and the shape
of `/a/b`, which has two.

So a shape is faithful for templates that are **unmistakable**: no fixed text of theirs, decoded, holds
a slash or the two braces of an empty marker, or is a star. Among those the shape says all there is to
say of a path, and an unmistakable template looks like no template that is not
(`Template.shape_eq_iff`).
-/

namespace Switchboard

/-! ## Lists whose elements agree one by one -/

/-- What makes no difference between elements that agree makes none between the lists. -/
theorem map_eq_of_forall₂ {α β γ : Type} {R : α → β → Prop} {f : α → γ} {g : β → γ} {l : List α}
    {l' : List β} (hfg : ∀ {a b}, R a b → f a = g b) (h : List.Forall₂ R l l') :
    l.map f = l'.map g := by
  rw [← List.forall₂_eq_eq_eq, List.forall₂_map_left_iff, List.forall₂_map_right_iff]
  exact h.imp (fun _ _ => hfg)

/-- What holds of all elements of a list holds of all that agree with them, and conversely. -/
theorem forall_iff_of_forall₂ {α β : Type} {R : α → β → Prop} {I : α → Prop} {J : β → Prop}
    {l : List α} {l' : List β} (hIJ : ∀ {a b}, R a b → (I a ↔ J b)) (h : List.Forall₂ R l l') :
    (∀ a ∈ l, I a) ↔ ∀ b ∈ l', J b := by
  induction h with
  | nil => exact ⟨fun _ _ hb => absurd hb List.not_mem_nil, fun _ _ ha => absurd ha List.not_mem_nil⟩
  | cons hab _ ih => rw [List.forall_mem_cons, List.forall_mem_cons, hIJ hab, ih]

/-! ## Upper case and the signs of a shape -/

namespace Ascii

/-- Only a letter is raised to a letter: any other sign is raised from itself. -/
theorem eq_of_toUpper_eq {c sign : Char} (h : c.toUpper = sign) (hsign : sign.isUpper = false) :
    c = sign := by
  unfold Char.toUpper at h
  split at h
  next hlow =>
    -- a small letter is raised to a capital one, and the sign is none
    exfalso
    subst h
    have hlow : 97 ≤ c.val.toNat ∧ c.val.toNat ≤ 122 :=
      ⟨UInt32.le_iff_toNat_le.1 hlow.1, UInt32.le_iff_toNat_le.1 hlow.2⟩
    have hnot : ¬ ('A'.val ≤ c.val + ('A'.val - 'a'.val) ∧ c.val + ('A'.val - 'a'.val) ≤ 'Z'.val) :=
      of_decide_eq_false hsign
    have hshift : ('A'.val - 'a'.val).toNat = 4294967264 := by decide
    have hA : 'A'.val.toNat = 65 := rfl
    have hZ : 'Z'.val.toNat = 90 := rfl
    rw [UInt32.le_iff_toNat_le, UInt32.le_iff_toNat_le, UInt32.toNat_add, hshift, hA, hZ] at hnot
    omega
  next => exact h

/-- Signs that are no letters stand in an upper-case form only where they stand in the text. -/
theorem eq_of_map_toUpper_eq {cs signs : List Char} (h : cs.map Char.toUpper = signs)
    (hsigns : signs.any Char.isUpper = false) : cs = signs := by
  induction cs generalizing signs with
  | nil => exact h
  | cons c cs ih =>
    subst h
    rw [List.map_cons, List.any_cons, Bool.or_eq_false_iff] at hsigns
    have hhead : c = c.toUpper := eq_of_toUpper_eq rfl hsigns.1
    have htail : cs = cs.map Char.toUpper := ih rfl hsigns.2
    show c :: cs = c.toUpper :: cs.map Char.toUpper
    rw [← hhead, ← htail]

theorem infix_of_infix_map_toUpper {cs signs : List Char} (h : signs <:+: cs.map Char.toUpper)
    (hsigns : signs.any Char.isUpper = false) : signs <:+: cs := by
  obtain ⟨before, after, h⟩ := h
  obtain ⟨_, cs₃, rfl, h', -⟩ := List.map_eq_append_iff.1 h.symm
  obtain ⟨cs₁, cs₂, rfl, -, h₂⟩ := List.map_eq_append_iff.1 h'
  rw [eq_of_map_toUpper_eq h₂ hsigns]
  exact List.infix_append cs₁ signs cs₃

end Ascii

namespace Piece

/-- The look of a capture: an empty marker. -/
def marker : List Char := ['{', '}']

/-- The look of a piece, as characters. -/
def look : Piece → List Char
  | .literal text => text.toList.map Char.toUpper
  | .capture _ => marker

theorem toList_canonical (p : Piece) : p.canonical.toList = p.look := by
  cases p with
  | literal text => exact Ascii.toList_upper text
  | capture name => exact String.toList_ofList (l := ['{', '}'])

/-- **Two pieces look alike**: they are texts that are the same up to case, or both are captures. -/
def LooksLike : Piece → Piece → Prop
  | .literal a, .literal b => Ascii.Same a b
  | .capture _, .capture _ => True
  | _, _ => False

/-- **A piece is unmistakable**: no fixed text holds a slash or an empty marker. -/
def Unmistakable : Piece → Prop
  | .literal text => '/' ∉ text.toList ∧ ¬ marker <:+: text.toList
  | .capture _ => True

instance : DecidablePred Unmistakable
  | .literal text => inferInstanceAs (Decidable ('/' ∉ text.toList ∧ ¬ marker <:+: text.toList))
  | .capture _ => inferInstanceAs (Decidable True)

end Piece

namespace Segment

/-- **Two segments look alike**: they are of one kind and their texts are the same up to case. -/
def LooksLike : Segment → Segment → Prop
  | .literal a, .literal b => Ascii.Same a b
  | .capture _, .capture _ => True
  | .compound ps, .compound qs => List.Forall₂ Piece.LooksLike ps qs
  | .wildcard _, .wildcard _ => True
  | _, _ => False

/-- **A segment is unmistakable**: no fixed text of it holds a slash or an empty marker, or is a
star. -/
def Unmistakable : Segment → Prop
  | .literal text => text ≠ "*" ∧ (Piece.literal text).Unmistakable
  | .compound pieces => ∀ p ∈ pieces, p.Unmistakable
  | _ => True

instance : DecidablePred Unmistakable
  | .literal text => inferInstanceAs (Decidable (text ≠ "*" ∧ (Piece.literal text).Unmistakable))
  | .compound pieces => inferInstanceAs (Decidable (∀ p ∈ pieces, p.Unmistakable))
  | .capture _ => inferInstanceAs (Decidable True)
  | .wildcard _ => inferInstanceAs (Decidable True)

end Segment

namespace Template

/-- **Two paths look alike**: they have as many segments, and these look alike one by one. -/
def LooksLike (a b : Template) : Prop :=
  List.Forall₂ Segment.LooksLike a.segments b.segments

/-- **A template is unmistakable** if its segments are. -/
def Unmistakable (t : Template) : Prop :=
  ∀ s ∈ t.segments, s.Unmistakable

instance : DecidablePred Unmistakable := fun t =>
  inferInstanceAs (Decidable (∀ s ∈ t.segments, s.Unmistakable))

end Template

/-! ## Pieces are known by what they look like together -/

namespace Piece

/-- What follows a text among spaced pieces: nothing, or an empty marker. -/
def Opens (cs : List Char) : Prop :=
  cs = [] ∨ ∃ rest, cs = marker ++ rest

/-- A text without an empty marker ends where what follows it opens. -/
theorem eq_nil_of_opens {text more rest : List Char} (hmore : Opens (more ++ rest)) (hrest : Opens rest)
    (htext : ¬ marker <:+: text ++ more) : more = [] := by
  match more with
  | [] => rfl
  | [c] =>
    -- the marker would be cut in two by what opens next
    rcases hmore with h | ⟨after, h⟩
    · cases h
    have hrest' : rest = '}' :: after := (List.cons.inj h).2
    rcases hrest with rfl | ⟨after', rfl⟩
    · cases hrest'
    · exact absurd (List.cons.inj hrest').1 (by decide)
  | c :: d :: more =>
    rcases hmore with h | ⟨after, h⟩
    · cases h
    have hc : c = '{' := (List.cons.inj h).1
    have hd : d = '}' := (List.cons.inj (List.cons.inj h).2).1
    refine absurd ⟨text, more, ?_⟩ htext
    rw [hc, hd, List.append_assoc]
    rfl

/-- **Two texts without an empty marker are equal** if what follows them opens and all is equal. -/
theorem text_eq {a b x y : List Char} (hx : Opens x) (hy : Opens y) (ha : ¬ marker <:+: a)
    (hb : ¬ marker <:+: b) (h : a ++ x = b ++ y) : a = b ∧ x = y := by
  rcases List.append_eq_append_iff.1 h with ⟨more, rfl, rfl⟩ | ⟨more, rfl, rfl⟩
  · obtain rfl := eq_nil_of_opens hx hy hb
    exact ⟨(List.append_nil a).symm, rfl⟩
  · obtain rfl := eq_nil_of_opens hy hx ha
    exact ⟨List.append_nil b, rfl⟩

theorem look_literal_ne_nil {text : String} (h : text ≠ "") : (Piece.literal text).look ≠ [] := by
  rw [look, ne_eq, List.map_eq_nil_iff, String.toList_eq_nil_iff]
  exact h

/-- Spaced pieces, if any, show. -/
theorem look_ne_nil {ps : List Piece} (h : Spaced ps) (hps : ps ≠ []) : ps.flatMap look ≠ [] := by
  match ps with
  | [] => exact absurd rfl hps
  | .capture name :: ps => exact List.cons_ne_nil '{' _
  | .literal text :: ps => exact List.append_ne_nil_of_left_ne_nil (look_literal_ne_nil h.1) _

/-- What a text holds of slashes and empty markers, its look holds too, and no more. -/
theorem unmistakable_iff_look {text : String} : (Piece.literal text).Unmistakable
    ↔ '/' ∉ (Piece.literal text).look ∧ ¬ marker <:+: (Piece.literal text).look := by
  have hsigns : marker.any Char.isUpper = false := rfl
  have hslash : '/' ∈ (Piece.literal text).look ↔ '/' ∈ text.toList := by
    constructor
    · intro hmem
      obtain ⟨c, hc, hc'⟩ := List.mem_map.1 hmem
      obtain rfl := Ascii.eq_of_toUpper_eq hc' rfl
      exact hc
    · exact fun hmem => List.mem_map.2 ⟨'/', hmem, rfl⟩
  have hmarker : marker <:+: (Piece.literal text).look ↔ marker <:+: text.toList :=
    ⟨fun h => Ascii.infix_of_infix_map_toUpper h hsigns, fun h => h.map Char.toUpper⟩
  rw [hslash, hmarker]
  exact Iff.rfl

/-- Pieces that look alike are unmistakable together. -/
theorem unmistakable_iff {p q : Piece} (h : p.LooksLike q) : p.Unmistakable ↔ q.Unmistakable := by
  match p, q, h with
  | .capture _, .capture _, _ => exact Iff.rfl
  | .literal a, .literal b, h =>
    have hlook : (Piece.literal a).look = (Piece.literal b).look := (Ascii.same_iff a b).1 h
    rw [unmistakable_iff_look, unmistakable_iff_look, hlook]

/-- Pieces that look alike have equal looks. -/
theorem canonical_eq_of_looksLike {p q : Piece} (h : p.LooksLike q) :
    p.canonical = q.canonical := by
  match p, q, h with
  | .literal a, .literal b, h => exact h
  | .capture _, .capture _, _ => rfl

theorem slash_not_mem_look {p : Piece} (h : p.Unmistakable) : '/' ∉ p.look := by
  cases p with
  | literal text => exact (unmistakable_iff_look.1 h).1
  | capture name =>
    show '/' ∉ marker
    decide

/-- The pieces after a text open, since the next one is a capture. -/
theorem opens_after_text {ps : List Piece} (h : ∀ p ∈ ps.head?, p.isCapture = true) :
    Opens (ps.flatMap look) := by
  match ps with
  | [] => exact Or.inl rfl
  | .capture name :: ps => exact Or.inr ⟨ps.flatMap look, rfl⟩
  | .literal text :: ps => exact absurd (h _ rfl) Bool.false_ne_true

/-- Pieces that begin with a text do not look like pieces that begin with a capture. -/
theorem look_text_ne_look_capture {text name : String} {ps qs : List Piece}
    (hps : Spaced (.literal text :: ps)) (htext : (Piece.literal text).Unmistakable) :
    (Piece.literal text :: ps).flatMap look ≠ (Piece.capture name :: qs).flatMap look := by
  rw [List.flatMap_cons]
  intro h
  obtain ⟨hfilled, hnext, -⟩ := hps
  -- before the marker of the capture, the other side has no text at all
  have hnil : (Piece.literal text).look = [] :=
    (text_eq (b := []) (opens_after_text hnext) (Or.inr ⟨_, rfl⟩) (unmistakable_iff_look.1 htext).2
      (by decide) h).1
  exact look_literal_ne_nil hfilled hnil

/-- **Pieces are known by what they look like together**: spaced and unmistakable pieces with equal
looks look alike one by one. The induction reads off the first piece of both lists, which is a capture
exactly if the look begins with an empty marker. -/
theorem looksLike_of_look_eq {ps qs : List Piece} (hps : Spaced ps) (hqs : Spaced qs)
    (ups : ∀ p ∈ ps, p.Unmistakable) (uqs : ∀ q ∈ qs, q.Unmistakable)
    (h : ps.flatMap look = qs.flatMap look) : List.Forall₂ LooksLike ps qs := by
  induction ps generalizing qs with
  | nil =>
    match qs with
    | [] => exact .nil
    | q :: qs => exact absurd h.symm (look_ne_nil hqs (List.cons_ne_nil q qs))
  | cons p ps ih =>
    rw [List.forall_mem_cons] at ups
    match qs with
    | [] => exact absurd h (look_ne_nil hps (List.cons_ne_nil p ps))
    | q :: qs =>
      rw [List.forall_mem_cons] at uqs
      match p, q with
      | .capture name, .capture name' =>
        have h : marker ++ ps.flatMap look = marker ++ qs.flatMap look := h
        exact .cons trivial (ih hps hqs ups.2 uqs.2 (List.append_cancel_left h))
      | .literal text, .capture name => exact absurd h (look_text_ne_look_capture hps ups.1)
      | .capture name, .literal text => exact absurd h.symm (look_text_ne_look_capture hqs uqs.1)
      | .literal text, .literal text' =>
        -- what comes after either text opens, so the texts end at one place
        obtain ⟨-, hnext, hps⟩ := hps
        obtain ⟨-, hnext', hqs⟩ := hqs
        obtain ⟨htext, hrest⟩ := text_eq (opens_after_text hnext) (opens_after_text hnext')
          (unmistakable_iff_look.1 ups.1).2 (unmistakable_iff_look.1 uqs.1).2 h
        exact .cons ((Ascii.same_iff text text').2 htext) (ih hps hqs ups.2 uqs.2 hrest)

end Piece

/-! ## Segments are known by their looks -/

namespace Segment

/-- A segment as pieces with the same look: those of a compound, and any other segment as one
piece. -/
def spelled : Segment → List Piece
  | .literal text => [.literal text]
  | .capture name => [.capture name]
  | .compound pieces => pieces
  | .wildcard _ => [.literal "*"]

theorem toList_canonical (s : Segment) : s.canonical.toList = s.spelled.flatMap Piece.look := by
  cases s with
  | literal text => simp [canonical, spelled, Piece.look]
  | capture name => simp [canonical, spelled, Piece.look, Piece.marker]
  | wildcard name => simp [canonical, spelled, Piece.look]
  | compound pieces =>
    rw [canonical, String.toList_join, List.flatMap_map]
    show pieces.flatMap (fun p => p.canonical.toList) = pieces.flatMap Piece.look
    rw [funext Piece.toList_canonical]

theorem spaced_spelled {s : Segment} (h : s.WellFormed) : Piece.Spaced s.spelled := by
  have hsingle : ∀ text : String, text ≠ "" → Piece.Spaced [.literal text] :=
    fun text htext => ⟨htext, fun p hp => absurd hp (Option.not_mem_none p), trivial⟩
  cases h with
  | literal hfilled => exact hsingle _ hfilled
  | capture name => trivial
  | compound hspaced => exact hspaced
  | wildcard name => exact hsingle "*" (by decide)

theorem unmistakable_spelled {s : Segment} (h : s.Unmistakable) :
    ∀ p ∈ s.spelled, p.Unmistakable := by
  cases s with
  | literal text =>
    intro p hp
    rw [List.mem_singleton.1 hp]
    exact h.2
  | capture name =>
    intro p hp
    rw [List.mem_singleton.1 hp]
    trivial
  | compound pieces => exact h
  | wildcard name =>
    intro p hp
    rw [List.mem_singleton.1 hp]
    decide

theorem slash_not_mem_canonical {s : Segment} (h : s.Unmistakable) : '/' ∉ s.canonical.toList := by
  rw [toList_canonical]
  intro hmem
  obtain ⟨p, hp, hslash⟩ := List.mem_flatMap.1 hmem
  exact Piece.slash_not_mem_look (unmistakable_spelled h p hp) hslash

/-- A text that looks like a star is one. -/
theorem same_star_iff {text : String} : Ascii.Same text "*" ↔ text = "*" := by
  constructor
  · intro h
    have h := (Ascii.same_iff text "*").1 h
    exact String.toList_inj.1 (Ascii.eq_of_map_toUpper_eq h rfl)
  · rintro rfl
    exact Ascii.same_refl "*"

/-- Spelled alike, two segments look alike: the number of pieces tells compounds, and a text that is a
star is mistakable. -/
theorem looksLike_of_spelled {s s' : Segment} (hs : s.WellFormed) (hs' : s'.WellFormed)
    (us : s.Unmistakable) (us' : s'.Unmistakable)
    (h : List.Forall₂ Piece.LooksLike s.spelled s'.spelled) : s.LooksLike s' := by
  have hlength := h.length_eq
  have hsingle : ∀ p q : Piece, List.Forall₂ Piece.LooksLike [p] [q] → p.LooksLike q :=
    fun p q h => (List.forall₂_cons.1 h).1
  cases hs with
  | literal =>
    cases hs' with
    | literal => exact hsingle _ _ h
    | capture => exact (hsingle _ _ h).elim
    | compound _ _ hseveral => exact absurd hlength (Nat.ne_of_lt hseveral)
    | wildcard => exact absurd (same_star_iff.1 (hsingle _ _ h)) us.1
  | capture =>
    cases hs' with
    | literal => exact (hsingle _ _ h).elim
    | capture => trivial
    | compound _ _ hseveral => exact absurd hlength (Nat.ne_of_lt hseveral)
    | wildcard => exact (hsingle _ _ h).elim
  | compound _ _ hseveral =>
    cases hs' with
    | compound => exact h
    | literal => exact absurd hlength (Nat.ne_of_gt hseveral)
    | capture => exact absurd hlength (Nat.ne_of_gt hseveral)
    | wildcard => exact absurd hlength (Nat.ne_of_gt hseveral)
  | wildcard =>
    cases hs' with
    | literal => exact absurd (same_star_iff.1 (hsingle _ _ h).symm) us'.1
    | capture => exact (hsingle _ _ h).elim
    | compound _ _ hseveral => exact absurd hlength (Nat.ne_of_lt hseveral)
    | wildcard => trivial

/-- **Well-formed and unmistakable segments are known by their looks.** -/
theorem looksLike_of_canonical_eq {s s' : Segment} (hs : s.WellFormed) (hs' : s'.WellFormed)
    (us : s.Unmistakable) (us' : s'.Unmistakable) (h : s.canonical = s'.canonical) :
    s.LooksLike s' := by
  refine looksLike_of_spelled hs hs' us us' ?_
  refine Piece.looksLike_of_look_eq (spaced_spelled hs) (spaced_spelled hs')
    (unmistakable_spelled us) (unmistakable_spelled us') ?_
  rw [← toList_canonical, ← toList_canonical, h]

/-- Segments that look alike have equal looks. -/
theorem canonical_eq_of_looksLike {s s' : Segment} (h : s.LooksLike s') :
    s.canonical = s'.canonical := by
  match s, s', h with
  | .literal a, .literal b, h => exact h
  | .capture _, .capture _, _ => rfl
  | .wildcard _, .wildcard _, _ => rfl
  | .compound ps, .compound qs, h =>
    exact congrArg String.join (map_eq_of_forall₂ Piece.canonical_eq_of_looksLike h)

/-- Segments that look alike are unmistakable together. -/
theorem unmistakable_iff {s s' : Segment} (h : s.LooksLike s') :
    s.Unmistakable ↔ s'.Unmistakable := by
  match s, s', h with
  | .literal a, .literal b, h =>
    have hstar : a = "*" ↔ b = "*" := by
      rw [← same_star_iff, ← same_star_iff]
      show Ascii.upper a = _ ↔ Ascii.upper b = _
      rw [h]
    have hpiece : (Piece.literal a).Unmistakable ↔ (Piece.literal b).Unmistakable :=
      Piece.unmistakable_iff h
    exact and_congr (not_congr hstar) hpiece
  | .capture _, .capture _, _ => exact Iff.rfl
  | .wildcard _, .wildcard _, _ => exact Iff.rfl
  | .compound ps, .compound qs, h => exact forall_iff_of_forall₂ Piece.unmistakable_iff h

/-- A well-formed segment shows. -/
theorem canonical_ne_nil {s : Segment} (h : s.WellFormed) : s.canonical.toList ≠ [] := by
  rw [toList_canonical]
  refine Piece.look_ne_nil (spaced_spelled h) ?_
  cases h with
  | literal => exact List.cons_ne_nil _ _
  | capture => exact List.cons_ne_nil _ _
  | wildcard => exact List.cons_ne_nil _ _
  | compound _ _ hseveral =>
    rintro rfl
    cases hseveral

end Segment

/-! ## Paths -/

namespace Template

/-- Parts that hold something, with separators between them, are nothing only if there are none. -/
theorem eq_nil_of_intercalate {α : Type} {sep : List α} {parts : List (List α)}
    (hparts : ∀ part ∈ parts, part ≠ []) (h : List.intercalate sep parts = []) : parts = [] := by
  match parts with
  | [] => rfl
  | part :: rest =>
    refine absurd ?_ (hparts part List.mem_cons_self)
    cases rest with
    | nil => rwa [List.intercalate_singleton] at h
    | cons next rest =>
      rw [List.intercalate_cons_cons, List.append_assoc] at h
      exact (List.append_eq_nil_iff.1 h).1

/-- The looks of the segments, as characters. -/
def signs (t : Template) : List (List Char) :=
  t.segments.map fun s => s.canonical.toList

theorem toList_shape (t : Template) : t.shape.toList = List.intercalate ['/'] t.signs := by
  unfold shape signs
  rw [String.toList_intercalate, List.map_map]
  rfl

/-- **Slashes show where segments end**: an unmistakable shape gives back the looks that it was made
of. -/
theorem splitOn_shape {t : Template} (ht : t.Unmistakable) (hsegments : t.segments ≠ []) :
    List.splitOn '/' t.shape.toList = t.signs := by
  rw [toList_shape]
  refine List.splitOn_intercalate '/' (fun sign hsign => ?_) ?_
  · obtain ⟨s, hs, rfl⟩ := List.mem_map.1 hsign
    exact Segment.slash_not_mem_canonical (ht s hs)
  · exact fun hnil => hsegments (List.map_eq_nil_iff.1 hnil)

/-- Only a template without segments has no shape. -/
theorem segments_eq_nil_of_shape {t : Template} (ht : ∀ s ∈ t.segments, s.WellFormed)
    (h : t.shape.toList = []) : t.segments = [] := by
  rw [toList_shape] at h
  refine List.map_eq_nil_iff.1 (eq_nil_of_intercalate (fun sign hsign => ?_) h)
  obtain ⟨s, hs, rfl⟩ := List.mem_map.1 hsign
  exact Segment.canonical_ne_nil (ht s hs)

/-- Equal shapes of unmistakable templates are made of equal looks. -/
theorem signs_eq_of_shape_eq {a b : Template} (ha : ∀ s ∈ a.segments, s.WellFormed)
    (hb : ∀ s ∈ b.segments, s.WellFormed) (ua : a.Unmistakable) (ub : b.Unmistakable)
    (h : a.shape = b.shape) : a.signs = b.signs := by
  by_cases hnil : a.segments = [] ∨ b.segments = []
  · -- the empty shape has no segments on either side
    have hempty : a.shape.toList = [] := by
      rcases hnil with hnil | hnil
      · rw [toList_shape, signs, hnil]
        rfl
      · rw [h, toList_shape, signs, hnil]
        rfl
    unfold signs
    rw [segments_eq_nil_of_shape ha hempty, segments_eq_nil_of_shape hb (h ▸ hempty)]
  · rw [not_or] at hnil
    rw [← splitOn_shape ua hnil.1, ← splitOn_shape ub hnil.2, h]

/-- Segments with equal looks look alike, one by one. -/
theorem looksLike_of_signs {ss ss' : List Segment} (hs : ∀ s ∈ ss, s.WellFormed ∧ s.Unmistakable)
    (hs' : ∀ s ∈ ss', s.WellFormed ∧ s.Unmistakable)
    (h : ss.map (fun s => s.canonical.toList) = ss'.map fun s => s.canonical.toList) :
    List.Forall₂ Segment.LooksLike ss ss' := by
  induction ss generalizing ss' with
  | nil =>
    rw [List.map_eq_nil_iff.1 h.symm]
    exact .nil
  | cons s ss ih =>
    obtain ⟨s', ss', rfl, hhead, htail⟩ := List.map_eq_cons_iff.1 h.symm
    rw [List.forall_mem_cons] at hs hs'
    refine .cons ?_ (ih hs.2 hs'.2 htail.symm)
    exact Segment.looksLike_of_canonical_eq hs.1.1 hs'.1.1 hs.1.2 hs'.1.2
      (String.toList_inj.1 hhead.symm)

/-- Paths that look alike have one shape. -/
theorem shape_eq_of_looksLike {a b : Template} (h : a.LooksLike b) : a.shape = b.shape :=
  congrArg (String.intercalate "/")
    (map_eq_of_forall₂ Segment.canonical_eq_of_looksLike h)

/-- **What a shape says.** Templates whose paths look alike have one shape, and are both unmistakable
or both not. Unmistakable templates have one shape exactly if their paths look alike. -/
theorem shape_eq_iff {text text' : String} {a b : Template} (ha : compile text = .ok a)
    (hb : compile text' = .ok b) :
    (a.LooksLike b → a.shape = b.shape ∧ (a.Unmistakable ↔ b.Unmistakable))
      ∧ (a.Unmistakable → b.Unmistakable → (a.shape = b.shape ↔ a.LooksLike b)) := by
  refine ⟨fun h => ⟨shape_eq_of_looksLike h, ?_⟩, fun ua ub => ⟨fun h => ?_, ?_⟩⟩
  · exact forall_iff_of_forall₂ Segment.unmistakable_iff h
  · have wa := wellFormed_of_compile ha
    have wb := wellFormed_of_compile hb
    exact looksLike_of_signs (fun s hs => ⟨wa s hs, ua s hs⟩) (fun s hs => ⟨wb s hs, ub s hs⟩)
      (signs_eq_of_shape_eq wa wb ua ub h)
  · exact shape_eq_of_looksLike

/-- Two paths that differ in the case of their texts and in their names only. -/
theorem shape_eq_of_renamed :
    let a : Template := ⟨"/Items/v\x7bmajor\x7d/*",
      [.literal "Items", .compound [.literal "v", .capture "major"], .wildcard none], []⟩
    let b : Template := ⟨"/items/V\x7bn\x7d/\x7b*rest\x7d",
      [.literal "items", .compound [.literal "V", .capture "n"], .wildcard (some "rest")], []⟩
    compile a.text = .ok a ∧ compile b.text = .ok b ∧ a.Unmistakable ∧ b.Unmistakable
      ∧ a.shape = b.shape ∧ a.LooksLike b := by
  intro a b
  have ha : compile a.text = .ok a := by decide +kernel
  have hb : compile b.text = .ok b := by decide +kernel
  have ua : a.Unmistakable := by decide
  have ub : b.Unmistakable := by decide
  have hshape : a.shape = b.shape := by decide +kernel
  exact ⟨ha, hb, ua, ub, hshape, ((shape_eq_iff ha hb).2 ua ub).1 hshape⟩

/-- **A shape does not always say how many segments a path has, or of what kind they are**: decoded
text can hold a slash, an empty marker or a star. -/
theorem shape_misleads :
    let segment : Template := ⟨"/a%2Fb", [.literal "a/b"], []⟩
    let segments : Template := ⟨"/a/b", [.literal "a", .literal "b"], []⟩
    let text : Template := ⟨"/%7B%7D", [.literal "\x7b\x7d"], []⟩
    let capture : Template := ⟨"/\x7bx\x7d", [.capture "x"], []⟩
    let star : Template := ⟨"/%2A", [.literal "*"], []⟩
    let wildcard : Template := ⟨"/*", [.wildcard none], []⟩
    (∀ t ∈ [segment, segments, text, capture, star, wildcard], compile t.text = .ok t)
      ∧ (segment.shape = segments.shape ∧ ¬ segment.LooksLike segments)
      ∧ (text.shape = capture.shape ∧ ¬ text.LooksLike capture)
      ∧ (star.shape = wildcard.shape ∧ ¬ star.LooksLike wildcard) := by
  refine ⟨by decide +kernel, ⟨by decide +kernel, fun h => ?_⟩, ⟨by decide +kernel, fun h => ?_⟩,
    ⟨by decide +kernel, fun h => ?_⟩⟩
  · exact absurd h.length_eq (by decide)
  · exact (List.forall₂_cons.1 h).1
  · exact (List.forall₂_cons.1 h).1

end Template

end Switchboard
