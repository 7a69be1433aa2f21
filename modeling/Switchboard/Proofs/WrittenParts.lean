import Mathlib.Data.List.Chain
import Switchboard.Proofs.Segments

/-!
# Parts and the pieces they are written with

Reading takes a part to pieces, and `Piece.render` writes a piece out again. The two undo each other, but
only for pieces in **normal form** (`Piece.Normal`): a text beside another one would be read as one text,
an empty text would not be read at all, and a brace in a text or a name would be read as part of a
marker.

For normal pieces there is nothing else to say: the pieces that are read from a part are the normal ones
that are written as it is (`Piece.split_eq_ok_iff`). In particular no part is written with two lists of
normal pieces, and a part that cannot be read is written with none. So what a part is as a whole, a
capture, a compound or a literal, can be said of the pieces that it is written with
(`PartKind.ofPart_eq_ok_iff`), without saying how they are found.
-/

namespace Switchboard

/-- **A text without braces.** -/
def Text.Braceless (cs : List Char) : Prop :=
  '{' ∉ cs ∧ '}' ∉ cs

instance (cs : List Char) : Decidable (Text.Braceless cs) :=
  inferInstanceAs (Decidable (_ ∧ _))

theorem Text.braceless_cons {c : Char} {cs : List Char} :
    Braceless (c :: cs) ↔ (c ≠ '{' ∧ c ≠ '}') ∧ Braceless cs := by
  unfold Braceless
  rw [List.mem_cons, List.mem_cons, not_or, not_or, and_and_and_comm]
  exact and_congr_left' (and_congr ne_comm ne_comm)

theorem Text.braceless_append {cs ds : List Char} :
    Braceless (cs ++ ds) ↔ Braceless cs ∧ Braceless ds := by
  unfold Braceless
  rw [List.mem_append, List.mem_append, not_or, not_or, and_and_and_comm]

namespace Piece

/-- **A legible piece** holds no brace, and a marker has a name. -/
def Legible : Piece → Prop
  | .literal text => Text.Braceless text.toList
  | .capture name => name ≠ "" ∧ Text.Braceless name.toList

/-- **Pieces in normal form**: no text is empty, no two texts stand side by side, names are not empty
either, and no piece holds a brace. -/
structure Normal (ps : List Piece) : Prop where
  /-- The texts are not empty and not side by side. -/
  spaced : Spaced ps
  /-- No piece holds a brace, and every marker has a name. -/
  legible : ∀ p ∈ ps, p.Legible

/-- **Pieces, written out** side by side. -/
def write (ps : List Piece) : String :=
  String.ofList (ps.flatMap render)

theorem toList_write (ps : List Piece) : (write ps).toList = ps.flatMap render :=
  String.toList_ofList

/-- A text by itself is written as it is. -/
theorem write_literal (text : String) : write [.literal text] = text := by
  rw [← String.toList_inj, toList_write, List.flatMap_singleton, render]

/-- A marker by itself is its name between braces. -/
theorem write_capture (name : String) : write [.capture name] = "\x7b" ++ name ++ "\x7d" := by
  rw [← String.toList_inj, toList_write, List.flatMap_singleton, render, String.toList_append,
    String.toList_append]
  rfl

theorem normal_literal {text : String} (hfilled : text ≠ "") (h : Text.Braceless text.toList) :
    Normal [.literal text] :=
  ⟨⟨hfilled, fun p hp => absurd hp (Option.not_mem_none p), trivial⟩,
    List.forall_mem_singleton.2 h⟩

theorem normal_capture {name : String} (h : (Piece.capture name).Legible) :
    Normal [.capture name] :=
  ⟨trivial, List.forall_mem_singleton.2 h⟩

/-- A text that stands for itself is no piece if it is empty, and one text if it is not. -/
theorem legible_ofText {cs : List Char} (h : Text.Braceless cs) : ∀ p ∈ ofText cs, p.Legible := by
  intro p hp
  unfold ofText at hp
  split at hp
  · cases hp
  · rw [List.mem_singleton.1 hp]
    show Text.Braceless (String.ofList cs).toList
    rwa [String.toList_ofList]

theorem render_ofText (cs : List Char) : (ofText cs).flatMap render = cs := by
  unfold ofText
  split
  next hnil => exact hnil.symm
  next => rw [List.flatMap_singleton, render, String.toList_ofList]

end Piece

/-! ## What is read is written -/

namespace PartScan

/-- What was read since the last piece ended, an opening brace included. -/
def pending : PartScan → List Char
  | .outside text => text
  | .inside name => '{' :: name

/-- What was read since the last piece or brace. -/
def current : PartScan → List Char
  | .outside text => text
  | .inside name => name

/-- Reading goes on with one more character, which is no brace. -/
def push (c : Char) : PartScan → PartScan
  | .outside text => .outside (text ++ [c])
  | .inside name => .inside (name ++ [c])

theorem pending_push (scan : PartScan) (c : Char) : (scan.push c).pending = scan.pending ++ [c] := by
  cases scan <;> rfl

theorem braceless_push {scan : PartScan} (h : Text.Braceless scan.current) {c : Char} (hopen : c ≠ '{')
    (hclose : c ≠ '}') : Text.Braceless (scan.push c).current := by
  have hc : Text.Braceless [c] := Text.braceless_cons.2 ⟨⟨hopen, hclose⟩, by decide⟩
  cases scan with
  | outside text => exact Text.braceless_append.2 ⟨h, hc⟩
  | inside name => exact Text.braceless_append.2 ⟨h, hc⟩

/-- **Pieces account for the rest of a reading**: they are legible, and written out they are what was
pending and what was still to be read. -/
structure Accounts (scan : PartScan) (cs : List Char) (ps : List Piece) : Prop where
  /-- Every piece is legible. -/
  legible : ∀ p ∈ ps, p.Legible
  /-- Nothing is lost, and nothing is added. -/
  render : ps.flatMap Piece.render = scan.pending ++ cs

namespace Accounts

variable {scan : PartScan} {text name cs : List Char} {ps : List Piece}

/-- At the end there is the text that was pending. -/
theorem ended (h : Text.Braceless text) : (PartScan.outside text).Accounts [] (Piece.ofText text) := by
  refine ⟨Piece.legible_ofText h, ?_⟩
  rw [Piece.render_ofText, List.append_nil]
  rfl

/-- A character that is no brace becomes pending. -/
theorem pushed {c : Char} (h : (scan.push c).Accounts cs ps) : scan.Accounts (c :: cs) ps := by
  refine ⟨h.legible, ?_⟩
  rw [h.render, pending_push, List.append_assoc]
  rfl

/-- An opening brace ends a text. -/
theorem opened (htext : Text.Braceless text) (h : (PartScan.inside []).Accounts cs ps) :
    (PartScan.outside text).Accounts ('{' :: cs) (Piece.ofText text ++ ps) := by
  refine ⟨List.forall_mem_append.2 ⟨Piece.legible_ofText htext, h.legible⟩, ?_⟩
  rw [List.flatMap_append, Piece.render_ofText, h.render]
  rfl

/-- A closing brace ends a name. -/
theorem closed (hfilled : name ≠ []) (hname : Text.Braceless name)
    (h : (PartScan.outside []).Accounts cs ps) :
    (PartScan.inside name).Accounts ('}' :: cs) (.capture (String.ofList name) :: ps) := by
  have hlegible : (Piece.capture (String.ofList name)).Legible := by
    refine ⟨fun hempty => hfilled (String.ofList_eq_empty_iff.1 hempty), ?_⟩
    rwa [String.toList_ofList]
  refine ⟨List.forall_mem_cons.2 ⟨hlegible, h.legible⟩, ?_⟩
  rw [List.flatMap_cons, Piece.render, h.render, String.toList_ofList]
  show '{' :: (name ++ ['}']) ++ cs = '{' :: (name ++ '}' :: cs)
  simp

end Accounts

/-- **What is read accounts for the rest**: each step of reading leaves it to the next one, and the last
one settles it. -/
theorem accounts_of_pieces (scan : PartScan) {cs : List Char} {ps : List Piece}
    (hscan : Text.Braceless scan.current) (h : scan.pieces cs = .ok ps) : scan.Accounts cs ps := by
  induction cs generalizing scan ps with
  | nil =>
    cases scan with
    | inside name => cases h
    | outside text =>
      obtain rfl := Except.ok.inj h
      exact .ended hscan
  | cons c cs ih =>
    cases scan with
    | outside text =>
      rw [pieces] at h
      split at h
      · cases h
      next hclose =>
      split at h
      next hopen =>
        obtain ⟨rest, hrest, rfl⟩ := exists_of_map_eq_ok h
        exact hopen ▸ .opened hscan (ih (.inside []) (by decide) hrest)
      next hopen => exact .pushed (ih _ (braceless_push hscan hopen hclose) h)
    | inside name =>
      rw [pieces] at h
      split at h
      · cases h
      next hopen =>
      split at h
      next hclose =>
        split at h
        · cases h
        next hfilled =>
        obtain ⟨rest, hrest, rfl⟩ := exists_of_map_eq_ok h
        exact hclose ▸ .closed hfilled hscan (ih (.outside []) (by decide) hrest)
      next hclose => exact .pushed (ih _ (braceless_push hscan hopen hclose) h)

/-! ## What is written is read -/

/-- Text without braces is read as text. -/
theorem pieces_outside_append {text : List Char} (h : Text.Braceless text) (before rest : List Char) :
    (PartScan.outside before).pieces (text ++ rest)
      = (PartScan.outside (before ++ text)).pieces rest := by
  induction text generalizing before with
  | nil => rw [List.nil_append, List.append_nil]
  | cons c text ih =>
    obtain ⟨⟨hopen, hclose⟩, htext⟩ := Text.braceless_cons.1 h
    rw [List.cons_append, pieces, if_neg hclose, if_neg hopen, ih htext, List.append_assoc]
    rfl

/-- Text without braces in a marker is read as a name. -/
theorem pieces_inside_append {text : List Char} (h : Text.Braceless text) (before rest : List Char) :
    (PartScan.inside before).pieces (text ++ rest)
      = (PartScan.inside (before ++ text)).pieces rest := by
  induction text generalizing before with
  | nil => rw [List.nil_append, List.append_nil]
  | cons c text ih =>
    obtain ⟨⟨hopen, hclose⟩, htext⟩ := Text.braceless_cons.1 h
    rw [List.cons_append, pieces, if_neg hopen, if_neg hclose, ih htext, List.append_assoc]
    rfl

/-- A marker ends the text before it, and reading goes on behind it. -/
theorem pieces_outside_capture {name : String} (h : (Piece.capture name).Legible)
    (text rest : List Char) : (PartScan.outside text).pieces ((Piece.capture name).render ++ rest)
      = (Piece.ofText text ++ .capture name :: ·) <$> (PartScan.outside []).pieces rest := by
  obtain ⟨hfilled, hbraceless⟩ := h
  have hname : name.toList ≠ [] := fun hnil => hfilled (String.toList_eq_nil_iff.1 hnil)
  have hrender : (Piece.capture name).render ++ rest = '{' :: (name.toList ++ '}' :: rest) := by
    show '{' :: (name.toList ++ ['}']) ++ rest = _
    simp
  rw [hrender, pieces, if_neg (by decide), if_pos rfl, pieces_inside_append hbraceless,
    List.nil_append, pieces, if_neg (by decide), if_pos rfl, if_neg hname, String.ofList_toList]
  cases (PartScan.outside []).pieces rest <;> rfl

/-- **Normal pieces are read as they are written**, behind some text if they do not start with a text
themselves. -/
theorem pieces_render {ps : List Piece} (h : Piece.Normal ps) {text : List Char}
    (htext : text = [] ∨ ∀ p ∈ ps.head?, p.isCapture = true) :
    (PartScan.outside text).pieces (ps.flatMap Piece.render) = .ok (Piece.ofText text ++ ps) := by
  induction ps generalizing text with
  | nil => exact congrArg Except.ok (List.append_nil _).symm
  | cons p ps ih =>
    obtain ⟨hp, hps⟩ := List.forall_mem_cons.1 h.legible
    have hspaced := h.spaced
    rw [List.flatMap_cons]
    cases p with
    | capture name =>
      rw [pieces_outside_capture hp, ih ⟨hspaced, hps⟩ (Or.inl rfl)]
      rfl
    | literal l =>
      obtain ⟨hfilled, hnext, hspaced⟩ := hspaced
      obtain rfl := htext.resolve_right fun h => Bool.false_ne_true (h _ rfl)
      have hl : l.toList ≠ [] := fun hnil => hfilled (String.toList_eq_nil_iff.1 hnil)
      show (PartScan.outside []).pieces (l.toList ++ ps.flatMap Piece.render) = _
      rw [pieces_outside_append hp, List.nil_append, ih ⟨hspaced, hps⟩ (Or.inr hnext)]
      unfold Piece.ofText
      rw [if_neg hl, if_pos rfl, String.ofList_toList]
      rfl

end PartScan

namespace Piece

/-- **The pieces of a part** are the normal ones that are written as it is. -/
theorem split_eq_ok_iff {part : String} {ps : List Piece} :
    split part.toList = .ok ps ↔ Normal ps ∧ write ps = part := by
  constructor
  · intro h
    have hspaced : Spaced ps := spaced_of_pieces h
    have haccounts := PartScan.accounts_of_pieces (.outside []) (by decide) h
    refine ⟨⟨hspaced, haccounts.legible⟩, ?_⟩
    rw [← String.toList_inj, toList_write]
    exact haccounts.render
  · rintro ⟨hnormal, rfl⟩
    rw [toList_write]
    exact PartScan.pieces_render hnormal (Or.inl rfl)

/-- No part is written with two lists of normal pieces. -/
theorem eq_of_write_eq {ps qs : List Piece} (hps : Normal ps) (hqs : Normal qs)
    (h : write ps = write qs) : ps = qs := by
  have hread := split_eq_ok_iff.2 ⟨hps, h⟩
  rw [split_eq_ok_iff.2 ⟨hqs, rfl⟩] at hread
  exact (Except.ok.inj hread).symm

/-- Two normal pieces or more are not all text. -/
theorem any_isCapture_of_several {ps : List Piece} (h : Normal ps) (hseveral : 2 ≤ ps.length) :
    ps.any isCapture = true := by
  match ps, h.spaced with
  | .capture _ :: _, _ => rfl
  | .literal _ :: .capture _ :: _, _ => rfl
  | .literal _ :: .literal _ :: _, ⟨_, hnext, _⟩ => exact absurd (hnext _ rfl) Bool.false_ne_true
  | [.literal _], _ => simp at hseveral

/-- Pieces that are not one marker, a marker among them, are several. -/
theorem several_of_isCapture {ps : List Piece} (hsingle : ∀ name, ps ≠ [.capture name])
    (hcapture : ps.any isCapture = true) : 2 ≤ ps.length := by
  rcases ps with _ | ⟨p, _ | ⟨q, ps⟩⟩
  · cases hcapture
  · cases p with
    | literal text => cases hcapture
    | capture name => exact absurd rfl (hsingle name)
  · simp

/-- A marker is found among pieces exactly if one is there. -/
theorem any_isCapture_iff {ps : List Piece} :
    ps.any isCapture = true ↔ ∃ name, .capture name ∈ ps := by
  rw [List.any_eq_true]
  constructor
  · rintro ⟨p, hp, hcapture⟩
    cases p with
    | literal text => cases hcapture
    | capture name => exact ⟨name, hp⟩
  · rintro ⟨name, hname⟩
    exact ⟨.capture name, hname, rfl⟩

/-- Pieces of text alone are written without braces. -/
theorem braceless_write {ps : List Piece} (h : ∀ p ∈ ps, p.Legible)
    (htext : ps.any isCapture = false) : Text.Braceless (write ps).toList := by
  rw [toList_write]
  induction ps with
  | nil => decide
  | cons p ps ih =>
    obtain ⟨hp, hps⟩ := List.forall_mem_cons.1 h
    rw [List.any_cons, Bool.or_eq_false_iff] at htext
    rw [List.flatMap_cons, Text.braceless_append]
    cases p with
    | literal text => exact ⟨hp, ih hps htext.2⟩
    | capture name => cases htext.1

/-- No two captures stand side by side exactly if none is found to. -/
theorem adjacentCaptures_eq_false_iff {ps : List Piece} : adjacentCaptures ps = false
    ↔ ps.IsChain fun p q => ¬ (p.isCapture = true ∧ q.isCapture = true) := by
  induction ps with
  | nil => exact iff_of_true rfl .nil
  | cons p ps ih =>
    cases ps with
    | nil => exact iff_of_true rfl (.singleton p)
    | cons q ps =>
      rw [adjacentCaptures, Bool.or_eq_false_iff, ih, List.isChain_cons_cons, ← Bool.and_eq_true,
        Bool.not_eq_true]

end Piece

/-! ## What a part is as a whole -/

namespace PartKind

/-- **What pieces come to**: one marker by itself, a marker among other pieces, or no marker. -/
def Describes : PartKind → List Piece → Prop
  | .capture, ps => ∃ name, ps = [.capture name]
  | .compound, ps => 2 ≤ ps.length ∧ ∃ name, .capture name ∈ ps
  | .literal, ps => ∀ name, .capture name ∉ ps

/-- The kind that is found describes the pieces. -/
theorem describes_ofPieces (ps : List Piece) : (ofPieces ps).Describes ps := by
  unfold ofPieces
  split
  next name => exact ⟨name, rfl⟩
  next hsingle =>
    split
    next hcapture =>
      exact ⟨Piece.several_of_isCapture hsingle hcapture, Piece.any_isCapture_iff.1 hcapture⟩
    next hcapture =>
      exact fun name hname => hcapture (Piece.any_isCapture_iff.2 ⟨name, hname⟩)

/-- A kind that describes pieces is found. -/
theorem Describes.ofPieces_eq {kind : PartKind} {ps : List Piece} (h : kind.Describes ps) :
    ofPieces ps = kind := by
  cases kind with
  | capture =>
    obtain ⟨name, rfl⟩ := h
    rfl
  | compound =>
    obtain ⟨hseveral, hcapture⟩ := h
    unfold ofPieces
    split
    next => exact absurd hseveral (by decide : ¬ 2 ≤ 1)
    next => rw [if_pos (Piece.any_isCapture_iff.2 hcapture)]
  | literal =>
    unfold ofPieces
    split
    next name => exact absurd (List.mem_singleton_self _) (h name)
    next =>
      rw [if_neg]
      intro hcapture
      obtain ⟨name, hname⟩ := Piece.any_isCapture_iff.1 hcapture
      exact h name hname

/-- **The kind that is found** is the one that describes the pieces. -/
theorem ofPieces_eq_iff {ps : List Piece} {kind : PartKind} :
    ofPieces ps = kind ↔ kind.Describes ps :=
  ⟨fun h => h ▸ describes_ofPieces ps, Describes.ofPieces_eq⟩

/-- **What a part is**: the kind of the normal pieces that it is written with. -/
theorem ofPart_eq_ok_iff {part : String} {kind : PartKind} : ofPart part = .ok kind
    ↔ ∃ ps, (Piece.Normal ps ∧ Piece.write ps = part) ∧ kind.Describes ps := by
  simp only [← Piece.split_eq_ok_iff, ← ofPieces_eq_iff]
  exact ⟨exists_of_map_eq_ok, fun ⟨ps, hps, hkind⟩ => by rw [ofPart, hps, ← hkind]; rfl⟩

end PartKind

/-- **Reading a part and writing its pieces undo each other.** Normal pieces are read as they are
written; what is read from a part is normal and is written as the part is; no two normal lists are
written alike; and a part cannot be read exactly if it is not the written form of any. What a part is as
a whole goes by the one normal list that it is written with: it is a capture, a compound or a literal if
that is a single marker, a marker among other pieces, or text without a marker, and it is nothing if
there is no such list. -/
theorem Piece.split_inverts_write :
    (∀ ps, Normal ps → split (write ps).toList = .ok ps)
      ∧ (∀ part : String, ∀ ps, split part.toList = .ok ps → Normal ps ∧ write ps = part)
      ∧ (∀ ps qs, Normal ps → Normal qs → write ps = write qs → ps = qs)
      ∧ (∀ part : String,
          (∃ fault, split part.toList = .error fault) ↔ ∀ ps, Normal ps → write ps ≠ part)
      ∧ (∀ part kind, PartKind.ofPart part = .ok kind
          ↔ ∃ ps, (Normal ps ∧ write ps = part) ∧ kind.Describes ps)
      ∧ ∀ part fault, PartKind.ofPart part = .error fault ↔ split part.toList = .error fault := by
  refine ⟨fun ps hps => split_eq_ok_iff.2 ⟨hps, rfl⟩, fun part ps => split_eq_ok_iff.1,
    fun ps qs => eq_of_write_eq, fun part => ?_, fun part kind => PartKind.ofPart_eq_ok_iff,
    fun part fault => ?_⟩
  · constructor
    · rintro ⟨fault, hfault⟩ ps hps hwrite
      rw [split_eq_ok_iff.2 ⟨hps, hwrite⟩] at hfault
      cases hfault
    · intro hnone
      cases hread : split part.toList with
      | error fault => exact ⟨fault, rfl⟩
      | ok ps =>
        obtain ⟨hps, hwrite⟩ := split_eq_ok_iff.1 hread
        exact absurd hwrite (hnone ps hps)
  · unfold PartKind.ofPart
    cases split part.toList with
    | error fault' =>
      show (Except.error fault' : Except PartFault PartKind) = .error fault ↔ _
      rw [Except.error.injEq, Except.error.injEq]
    | ok ps => exact iff_of_false (fun h => by cases h) (fun h => by cases h)

/-- A name between two texts is read back as such, and the part is a compound. -/
theorem Piece.split_inverts_write_file :
    let ps : List Piece := [.literal "v", .capture "id", .literal ".xml"]
    write ps = "v{id}.xml" ∧ Normal ps ∧ split (write ps).toList = .ok ps
      ∧ PartKind.ofPart (write ps) = .ok .compound := by
  intro ps
  obtain ⟨hread, -, -, -, hkind, -⟩ := split_inverts_write
  have hnormal : Normal ps :=
    ⟨⟨by decide, fun p hp => by obtain rfl := Option.some.inj hp; rfl, by decide,
        fun p hp => absurd hp (Option.not_mem_none p), trivial⟩,
      by simp [ps, Legible, Text.Braceless]⟩
  exact ⟨by decide, hnormal, hread ps hnormal,
    (hkind _ _).2 ⟨ps, ⟨hnormal, rfl⟩, by decide, "id", by simp [ps]⟩⟩

end Switchboard
