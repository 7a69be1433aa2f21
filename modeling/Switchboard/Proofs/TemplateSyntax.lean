import Switchboard.Proofs.WrittenParts

/-!
# The texts that are templates

Compiling a template cuts its text several times, at a question mark, at slashes, at ampersands and at
equals signs, takes each part to pieces, and compares names at the end; a fault can be found at each of
these steps. This module says in one place what the texts without a fault are. The **written forms** of
segments, values and constraints are given as rules (`Segment.Written`, `QueryValue.Written`,
`QueryValue.WrittenField`), each with what the form stands for, and `Template.Written` puts them
together: every part of the path and every field of the query has a written form, a wildcard is the last
segment, and neither keys nor names are repeated.

Compiling accepts exactly these texts, and makes of each what it is the written form of
(`Template.compile_eq_ok_iff_written`). So nothing is written in two ways that are read differently, and
what is compiled has all the properties that matching relies on (`Template.WellMade`).
-/

namespace Switchboard

/-! ## Written forms -/

/-- **The written forms of a segment.** -/
inductive Segment.Written : String → Segment → Prop where
  /-- A star takes the rest of the path. -/
  | star : Written "*" (.wildcard none)
  /-- Text without braces that is no star stands for itself, decoded. -/
  | text {text : String} (filled : text ≠ "") (plain : text ≠ "*")
    (braceless : Text.Braceless text.toList) : Written text (.literal (Path.decodeSegment text))
  /-- A marker by itself takes the whole segment. -/
  | capture {name : String} (legible : (Piece.capture name).Legible)
    (unstarred : name.toList.head? ≠ some '*') : Written ("\x7b" ++ name ++ "\x7d") (.capture name)
  /-- A marker by itself with a star before its name takes the rest of the path. -/
  | rest {name : String} (legible : (Piece.capture name).Legible) :
    Written ("\x7b" ++ ("*" ++ name) ++ "\x7d") (.wildcard (some name))
  /-- Several pieces have text between any two markers, and no name begins with a star. -/
  | mixed {pieces : List Piece} (normal : Piece.Normal pieces) (several : 2 ≤ pieces.length)
    (apart : pieces.IsChain fun p q => ¬ (p.isCapture = true ∧ q.isCapture = true))
    (unstarred : ∀ name, .capture name ∈ pieces → name.toList.head? ≠ some '*') :
    Written (Piece.write pieces) (.compound (pieces.map Piece.decoded))

/-- **The written forms of a value** in the query of a template. -/
inductive QueryValue.Written : String → QueryValue → Prop where
  /-- No text asks for the empty value. -/
  | empty : Written "" .empty
  /-- Text without braces asks for itself. -/
  | text {text : String} (filled : text ≠ "") (braceless : Text.Braceless text.toList) :
    Written text (.literal text)
  /-- A marker by itself asks for any value. -/
  | capture {name : String} (legible : (Piece.capture name).Legible)
    (unstarred : name.toList.head? ≠ some '*') : Written ("\x7b" ++ name ++ "\x7d") (.capture name)

/-- **The written forms of a constraint**: a key, which has some text and no brace, and behind the first
equals sign its value, if there is an equals sign. -/
inductive QueryValue.WrittenField : String → String × QueryValue → Prop where
  /-- A key alone asks for the empty value. -/
  | bare {key : String} (filled : key ≠ "") (braceless : Text.Braceless key.toList)
    (whole : '=' ∉ key.toList) : WrittenField key (key, .empty)
  /-- A key with a value. -/
  | valued {key value : String} {v : QueryValue} (filled : key ≠ "")
    (braceless : Text.Braceless key.toList) (whole : '=' ∉ key.toList) (written : Written value v) :
    WrittenField (key ++ "=" ++ value) (key, v)

/-- **The written form of a template.** -/
structure Template.Written (text : String) (t : Template) : Prop where
  /-- The text is kept. -/
  text_eq : t.text = text
  /-- The parts of the path are the written forms of the segments, in order. -/
  path : List.Forall₂ Segment.Written (Path.segments (pathPart text)) t.segments
  /-- What takes the rest of the path is the last segment. -/
  wildcard_last : ∀ s ∈ t.segments.dropLast, s.isWildcard = false
  /-- The fields of the query are the written forms of the constraints, in order. -/
  query : List.Forall₂ QueryValue.WrittenField
    ((Text.filledFields '&' (queryPart text).toList).map String.ofList) t.queries
  /-- No two constraints are on one key, letter case aside. -/
  keys : t.queries.Pairwise fun p q => ¬ Ascii.Same p.1 q.1
  /-- No two names of path and query are the same, letter case aside. -/
  names : t.names.Pairwise fun m n => ¬ Ascii.Same m n

/-! ## Parts, read and written -/

/-- **What a part is read as**: the normal pieces that it is written with. -/
theorem Piece.ofPart_eq_ok_iff {part : String} {ps : List Piece} :
    ofPart part = .ok ps ↔ Normal ps ∧ write ps = part := by
  rw [← split_eq_ok_iff]
  refine ⟨ok_of_mapError_eq_ok, fun h => ?_⟩
  unfold ofPart
  rw [h]
  rfl

theorem Piece.isStarred_capture {name : String} :
    (Piece.capture name).isStarred = false ↔ name.toList.head? ≠ some '*' :=
  beq_eq_false_iff_ne

/-! ## Segments -/

namespace Segment

/-- A part that is no star is read piece by piece. -/
theorem compile_eq_ok_iff_pieces {part : String} (hplain : part ≠ "*") {s : Segment} :
    compile part = .ok s ↔ ∃ ps, (Piece.Normal ps ∧ Piece.write ps = part)
      ∧ ofPieces part ps = .ok s := by
  unfold compile
  rw [if_neg hplain, bind_eq_ok_iff]
  simp only [Piece.ofPart_eq_ok_iff]

/-- A name without a star is a capture. -/
theorem ofName_of_unstarred {name : String} (h : name.toList.head? ≠ some '*') :
    ofName name = .ok (.capture name) := by
  unfold ofName
  split
  next hname => exact absurd (congrArg List.head? hname) h
  next hname => exact absurd (congrArg List.head? hname) h
  next => rfl

/-- A name behind a star takes the rest of the path. -/
theorem ofName_starred {name : String} (h : name ≠ "") :
    ofName ("*" ++ name) = .ok (.wildcard (some name)) := by
  have hname : ("*" ++ name).toList = '*' :: name.toList := String.toList_append
  unfold ofName
  rw [hname]
  split
  next hnil => exact absurd (String.toList_eq_nil_iff.1 (List.cons.inj hnil).2) h
  next hrest =>
    obtain rfl := (List.cons.inj hrest).2
    rw [String.ofList_toList]
  next hstar => exact absurd rfl (hstar name.toList)

/-- **A single marker** is the written form of what its name is read as. -/
theorem written_of_ofName {name : String} (hlegible : (Piece.capture name).Legible) {s : Segment}
    (h : ofName name = .ok s) : Written ("\x7b" ++ name ++ "\x7d") s := by
  by_cases hstar : name.toList.head? = some '*'
  · obtain ⟨rest, hrest⟩ := List.head?_eq_some_iff.1 hstar
    have hname : name = "*" ++ String.ofList rest := by
      rw [← String.toList_inj, hrest, String.toList_append]
      show '*' :: rest = '*' :: (String.ofList rest).toList
      rw [String.toList_ofList]
    have hbraceless : Text.Braceless (String.ofList rest).toList := by
      have hwhole := hlegible.2
      rw [hrest] at hwhole
      rw [String.toList_ofList]
      exact (Text.braceless_cons.1 hwhole).2
    have hfilled : String.ofList rest ≠ "" := by
      -- a star without a name is refused
      intro hnone
      rw [hname, hnone] at h
      cases h
    rw [hname, ofName_starred hfilled] at h
    cases h
    rw [hname]
    exact .rest ⟨hfilled, hbraceless⟩
  · rw [ofName_of_unstarred hstar] at h
    cases h
    exact .capture hlegible hstar

/-- **Markers mixed with other pieces** are the written form of what they are read as. -/
theorem written_of_ofMixed {ps : List Piece} (hps : Piece.Normal ps) (hseveral : 2 ≤ ps.length)
    {s : Segment} (h : ofMixed (Piece.write ps) ps = .ok s) : Written (Piece.write ps) s := by
  unfold ofMixed at h
  split at h
  · cases h
  next hadjacent =>
  split at h
  · cases h
  next hstarred =>
  cases h
  refine .mixed hps hseveral ?_ fun name hname => ?_
  · exact Piece.adjacentCaptures_eq_false_iff.1 (Bool.eq_false_iff.2 hadjacent)
  · have hone := List.any_eq_false.1 (Bool.eq_false_iff.2 hstarred) _ hname
    exact Piece.isStarred_capture.1 (Bool.eq_false_iff.2 hone)

/-- **A part that is no star** is the written form of what its pieces are read as. -/
theorem written_of_ofPieces {ps : List Piece} (hps : Piece.Normal ps) (hfilled : Piece.write ps ≠ "")
    (hplain : Piece.write ps ≠ "*") {s : Segment} (h : ofPieces (Piece.write ps) ps = .ok s) :
    Written (Piece.write ps) s := by
  unfold ofPieces at h
  split at h
  next name =>
    rw [Piece.write_capture]
    exact written_of_ofName (hps.legible _ List.mem_cons_self) h
  next hsingle =>
    split at h
    next hcapture =>
      exact written_of_ofMixed hps (Piece.several_of_isCapture (fun name => hsingle name) hcapture) h
    next htext =>
      cases h
      exact .text hfilled hplain (Piece.braceless_write hps.legible (Bool.eq_false_iff.2 htext))

/-- A part that is no star is read as its pieces are. -/
theorem compile_of_ofPieces {ps : List Piece} (hps : Piece.Normal ps) (hplain : Piece.write ps ≠ "*")
    {s : Segment} (h : ofPieces (Piece.write ps) ps = .ok s) : compile (Piece.write ps) = .ok s :=
  (compile_eq_ok_iff_pieces hplain).2 ⟨ps, ⟨hps, rfl⟩, h⟩

/-- **A single marker is read as its name is.** -/
theorem compile_marker {name : String} (hlegible : (Piece.capture name).Legible) {s : Segment}
    (h : ofName name = .ok s) : compile ("\x7b" ++ name ++ "\x7d") = .ok s := by
  have hplain : Piece.write [.capture name] ≠ "*" := by
    -- it starts with a brace
    intro hstar
    have hlist := congrArg String.toList hstar
    rw [Piece.toList_write] at hlist
    exact absurd (List.cons.inj hlist).1 (by decide)
  rw [← Piece.write_capture]
  exact compile_of_ofPieces (Piece.normal_capture hlegible) hplain h

/-- **Markers mixed with other pieces are read as a compound**, with text between any two markers and
names without a star. -/
theorem compile_mixed {ps : List Piece} (hnormal : Piece.Normal ps) (hseveral : 2 ≤ ps.length)
    (hapart : ps.IsChain fun p q => ¬ (p.isCapture = true ∧ q.isCapture = true))
    (hunstarred : ∀ name, .capture name ∈ ps → name.toList.head? ≠ some '*') :
    compile (Piece.write ps) = .ok (.compound (ps.map Piece.decoded)) := by
  have hplain : Piece.write ps ≠ "*" := by
    -- a star is one piece
    intro hstar
    have hone : ps = [.literal "*"] := Piece.eq_of_write_eq hnormal
      (Piece.normal_literal (by decide) (by decide)) (hstar.trans (Piece.write_literal "*").symm)
    rw [hone] at hseveral
    simp at hseveral
  have hstarred : ps.any Piece.isStarred = false := by
    refine List.any_eq_false.2 fun p hp => Bool.eq_false_iff.1 ?_
    cases p with
    | literal text => rfl
    | capture name => exact Piece.isStarred_capture.2 (hunstarred name hp)
  refine compile_of_ofPieces hnormal hplain ?_
  unfold ofPieces
  split
  next name => simp at hseveral
  next =>
    rw [if_pos (Piece.any_isCapture_of_several hnormal hseveral), ofMixed,
      Piece.adjacentCaptures_eq_false_iff.2 hapart, hstarred]
    rfl

/-- **A written form is read as what it stands for.** -/
theorem compile_of_written {part : String} {s : Segment} (h : Written part s) :
    compile part = .ok s := by
  cases h with
  | star => exact if_pos rfl
  | text hfilled hplain hbraceless =>
    rw [← Piece.write_literal part] at hplain
    have hread := compile_of_ofPieces (Piece.normal_literal hfilled hbraceless) hplain rfl
    rwa [Piece.write_literal] at hread
  | capture hlegible hunstarred => exact compile_marker hlegible (ofName_of_unstarred hunstarred)
  | @rest name hlegible =>
    have hstarred : (Piece.capture ("*" ++ name)).Legible := by
      refine ⟨fun hnone => hlegible.1 (String.append_eq_empty_iff.1 hnone).2, ?_⟩
      rw [String.toList_append, Text.braceless_append]
      exact ⟨by decide, hlegible.2⟩
    exact compile_marker hstarred (ofName_starred hlegible.1)
  | mixed hnormal hseveral hapart hunstarred =>
    exact compile_mixed hnormal hseveral hapart hunstarred

/-- **A part is read as a segment when it is a written form of it.** -/
theorem compile_eq_ok_iff_written {part : String} (hfilled : part ≠ "") {s : Segment} :
    compile part = .ok s ↔ Written part s := by
  refine ⟨fun h => ?_, compile_of_written⟩
  by_cases hstar : part = "*"
  · subst hstar
    rw [compile_of_written .star] at h
    cases h
    exact .star
  · obtain ⟨ps, ⟨hnormal, rfl⟩, hps⟩ := (compile_eq_ok_iff_pieces hstar).1 h
    exact written_of_ofPieces hnormal hfilled hstar hps

end Segment

/-! ## Constraints -/

namespace QueryValue

/-- **Pieces that are read as a value** are written as it. -/
theorem written_of_ofPieces {key : String} {ps : List Piece} (hps : Piece.Normal ps)
    (hfilled : Piece.write ps ≠ "") {v : QueryValue} (h : ofPieces key (Piece.write ps) ps = .ok v) :
    Written (Piece.write ps) v := by
  unfold ofPieces at h
  split at h
  next name =>
    split at h
    · cases h
    next hunstarred =>
      cases h
      rw [Piece.write_capture]
      exact .capture (hps.legible _ List.mem_cons_self)
        (Piece.isStarred_capture.1 (Bool.eq_false_iff.2 hunstarred))
  next =>
    split at h
    · cases h
    next htext =>
      cases h
      exact .text hfilled (Piece.braceless_write hps.legible (Bool.eq_false_iff.2 htext))

/-- A value that is not empty is read as its pieces are. -/
theorem compile_eq_ok_iff_pieces {key value : String} (hfilled : value ≠ "") {v : QueryValue} :
    compile key value = .ok v ↔ ∃ ps, (Piece.Normal ps ∧ Piece.write ps = value)
      ∧ ofPieces key value ps = .ok v := by
  unfold compile
  rw [if_neg hfilled, bind_eq_ok_iff]
  simp only [Piece.ofPart_eq_ok_iff]

/-- **A written form is read as the value that it stands for.** -/
theorem compile_of_written {key value : String} {v : QueryValue} (h : Written value v) :
    compile key value = .ok v := by
  cases h with
  | empty => exact if_pos rfl
  | text hfilled hbraceless =>
    exact (compile_eq_ok_iff_pieces hfilled).2
      ⟨[.literal value], ⟨Piece.normal_literal hfilled hbraceless, Piece.write_literal value⟩, rfl⟩
  | @capture name hlegible hunstarred =>
    have hfilled : "\x7b" ++ name ++ "\x7d" ≠ "" := fun hnone =>
      absurd (String.append_eq_empty_iff.1 hnone).2 (by decide)
    refine (compile_eq_ok_iff_pieces hfilled).2
      ⟨[.capture name], ⟨Piece.normal_capture hlegible, Piece.write_capture name⟩, ?_⟩
    show (if (Piece.capture name).isStarred then _ else _) = _
    rw [Piece.isStarred_capture.2 hunstarred]
    rfl

/-- **A value is read when it is in a written form.** -/
theorem compile_eq_ok_iff_written {key value : String} {v : QueryValue} :
    compile key value = .ok v ↔ Written value v := by
  refine ⟨fun h => ?_, compile_of_written⟩
  by_cases hnone : value = ""
  · subst hnone
    rw [compile_of_written .empty] at h
    cases h
    exact .empty
  · obtain ⟨ps, ⟨hnormal, rfl⟩, hps⟩ := (compile_eq_ok_iff_pieces hnone).1 h
    exact written_of_ofPieces hnormal hnone hps

/-- Only the empty value is written as no text. -/
theorem eq_empty_of_written {v : QueryValue} (h : Written "" v) : v = .empty := by
  have hv : compile "" "" = .ok v := compile_eq_ok_iff_written.2 h
  rw [compile_eq_ok_iff_written.2 .empty] at hv
  exact (Except.ok.inj hv).symm

/-- **A constraint is read from its key and its value**, as the first equals sign parts them. -/
theorem writtenField_iff {field : String} {key value : List Char}
    (hcut : (Text.cut? '=' field.toList).getD (field.toList, []) = (key, value))
    {c : String × QueryValue} : WrittenField field c ↔ c.1 = String.ofList key
      ∧ (c.1 ≠ "" ∧ Text.Braceless c.1.toList) ∧ Written (String.ofList value) c.2 := by
  constructor
  · intro h
    cases h with
    | bare hfilled hbraceless hwhole =>
      rw [(Text.cut?_eq_none_iff '=' field.toList).2 hwhole] at hcut
      cases hcut
      exact ⟨String.ofList_toList.symm, ⟨hfilled, hbraceless⟩, .empty⟩
    | @valued k v _ hfilled hbraceless hwhole hwritten =>
      have hlist : (k ++ "=" ++ v).toList = k.toList ++ '=' :: v.toList := by simp
      rw [Text.cut?_eq_some_iff.2 ⟨hlist, hwhole⟩] at hcut
      cases hcut
      rw [String.ofList_toList, String.ofList_toList]
      exact ⟨rfl, ⟨hfilled, hbraceless⟩, hwritten⟩
  · obtain ⟨k, v⟩ := c
    rintro ⟨rfl, ⟨hfilled, hbraceless⟩, hwritten⟩
    cases hfound : Text.cut? '=' field.toList with
    | none =>
      rw [hfound] at hcut
      cases hcut
      obtain rfl := eq_empty_of_written hwritten
      rw [String.ofList_toList] at hfilled hbraceless ⊢
      exact .bare hfilled hbraceless ((Text.cut?_eq_none_iff '=' field.toList).1 hfound)
    | some parts =>
      rw [hfound] at hcut
      obtain rfl : parts = (key, value) := hcut
      obtain ⟨hlist, hwhole⟩ := Text.cut?_eq_some_iff.1 hfound
      have hfield : field = String.ofList key ++ "=" ++ String.ofList value := by
        rw [← String.toList_inj, hlist]
        simp
      rw [hfield]
      exact .valued hfilled hbraceless (by rwa [String.toList_ofList]) hwritten

end QueryValue

/-- What a key is. -/
theorem isKey_eq_true_iff {key : String} :
    isKey key = true ↔ key ≠ "" ∧ Text.Braceless key.toList := by
  unfold isKey Text.Braceless
  simp [and_assoc]

namespace Template

/-- **One more constraint is read** when its field is in a written form and its key is new. -/
theorem addConstraint_eq_ok_iff {seen queries : List (String × QueryValue)} {field : List Char} :
    addConstraint seen field = .ok queries ↔ ∃ c, QueryValue.WrittenField (String.ofList field) c
      ∧ (∀ q ∈ seen, ¬ Ascii.Same q.1 c.1) ∧ queries = seen ++ [c] := by
  unfold addConstraint
  cases hcut : (Text.cut? '=' field).getD (field, []) with
  | mk key value =>
  rw [← String.toList_ofList (l := field)] at hcut
  simp only [QueryValue.writtenField_iff hcut]
  constructor
  · intro h
    split at h
    · cases h
    next hkey =>
    split at h
    · cases h
    next hnew =>
    obtain ⟨v, hv, h⟩ := ok_of_bind_eq_ok h
    cases h
    refine ⟨(String.ofList key, v), ⟨rfl, isKey_eq_true_iff.1 (by simpa using hkey),
      QueryValue.compile_eq_ok_iff_written.1 hv⟩, fun q hq hsame => hnew ?_, rfl⟩
    exact List.any_eq_true.2 ⟨q, hq, decide_eq_true hsame⟩
  · rintro ⟨⟨_, v⟩, ⟨rfl, hkey, hv⟩, hnew, rfl⟩
    have hnone : (seen.any fun q => Ascii.Same q.1 (String.ofList key)) = false :=
      List.any_eq_false.2 fun q hq => by simpa using hnew q hq
    rw [isKey_eq_true_iff.2 hkey, hnone, if_neg (by decide), if_neg (by decide),
      QueryValue.compile_eq_ok_iff_written.2 hv]
    rfl

/-- Constraints are read one after another when their fields are in written forms and no key is
repeated. -/
theorem foldlM_addConstraint_eq_ok_iff {fields : List (List Char)}
    {seen queries : List (String × QueryValue)} :
    fields.foldlM addConstraint seen = .ok queries ↔ ∃ cs,
      List.Forall₂ QueryValue.WrittenField (fields.map String.ofList) cs
        ∧ cs.Pairwise (fun p q => ¬ Ascii.Same p.1 q.1)
        ∧ (∀ q ∈ seen, ∀ c ∈ cs, ¬ Ascii.Same q.1 c.1) ∧ queries = seen ++ cs := by
  induction fields generalizing seen with
  | nil =>
    constructor
    · intro h
      cases h
      exact ⟨[], .nil, .nil, fun _ _ c hc => absurd hc List.not_mem_nil, (List.append_nil _).symm⟩
    · rintro ⟨cs, hcs, -, -, rfl⟩
      cases hcs
      exact congrArg Except.ok (List.append_nil seen).symm
  | cons f fields ih =>
    rw [List.foldlM_cons, bind_eq_ok_iff, List.map_cons]
    simp only [addConstraint_eq_ok_iff, ih]
    constructor
    · rintro ⟨_, ⟨c, hc, hnew, rfl⟩, cs, hcs, hkeys, hfresh, rfl⟩
      rw [List.forall_mem_append, List.forall_mem_singleton] at hfresh
      refine ⟨c :: cs, .cons hc hcs, .cons hfresh.2 hkeys, fun q hq => ?_, ?_⟩
      · exact List.forall_mem_cons.2 ⟨hnew q hq, hfresh.1 q hq⟩
      · exact List.append_assoc seen [c] cs
    · rintro ⟨_, hall, hkeys, hfresh, rfl⟩
      obtain ⟨c, cs, hc, hcs, rfl⟩ := List.forall₂_cons_left_iff.1 hall
      obtain ⟨hfirst, hrest⟩ := List.pairwise_cons.1 hkeys
      refine ⟨seen ++ [c], ⟨c, hc, fun q hq => hfresh q hq c List.mem_cons_self, rfl⟩, cs, hcs, hrest,
        List.forall_mem_append.2 ⟨fun q hq c' hc' => ?_, List.forall_mem_singleton.2 hfirst⟩, ?_⟩
      · exact hfresh q hq c' (List.mem_cons_of_mem c hc')
      · exact (List.append_assoc seen [c] cs).symm

/-- **What reading a query comes to.** -/
theorem compileQuery_eq_ok_iff {query : List Char} {queries : List (String × QueryValue)} :
    compileQuery query = .ok queries
      ↔ List.Forall₂ QueryValue.WrittenField ((Text.filledFields '&' query).map String.ofList) queries
        ∧ queries.Pairwise fun p q => ¬ Ascii.Same p.1 q.1 := by
  unfold compileQuery
  rw [foldlM_addConstraint_eq_ok_iff]
  constructor
  · rintro ⟨cs, hcs, hkeys, -, rfl⟩
    exact ⟨hcs, hkeys⟩
  · rintro ⟨hqueries, hkeys⟩
    exact ⟨queries, hqueries, hkeys, fun _ hq => absurd hq List.not_mem_nil, rfl⟩

/-! ## Templates -/

/-- **A text compiles to a template when it is the written form of it.** -/
theorem compile_eq_ok_iff_written {text : String} {t : Template} :
    compile text = .ok t ↔ Written text t := by
  have hpath : (Path.segments (pathPart text)).mapM Segment.compile = .ok t.segments
      ↔ List.Forall₂ Segment.Written (Path.segments (pathPart text)) t.segments := by
    rw [mapM_eq_ok_iff]
    have hfilled : ∀ part ∈ Path.segments (pathPart text), part ≠ "" :=
      fun part hpart => Path.ne_empty_of_mem_segments hpart
    refine ⟨fun h => ?_, fun h => h.imp fun _ _ => Segment.compile_of_written⟩
    exact ((List.forall₂_and_left _ _).2 ⟨hfilled, h⟩).imp fun _ _ hpart =>
      (Segment.compile_eq_ok_iff_written hpart.1).1 hpart.2
  have hlast : t.segments.dropLast.any Segment.isWildcard = false
      ↔ ∀ s ∈ t.segments.dropLast, s.isWildcard = false := by
    rw [List.any_eq_false]
    exact forall₂_congr fun s _ => iff_of_eq (Bool.not_eq_true _)
  have hnames : firstRepeated? [] t.names = none
      ↔ t.names.Pairwise fun m n => ¬ Ascii.Same m n := by
    rw [firstRepeated?_eq_none_iff]
    exact and_iff_left fun s hs => absurd hs List.not_mem_nil
  rw [compile_eq_ok_iff, compilePath_eq_ok_iff, String.ofList_toList, hpath, hlast,
    compileQuery_eq_ok_iff, hnames]
  constructor
  · rintro ⟨htext, ⟨hpath, hlast⟩, ⟨hquery, hkeys⟩, hnames⟩
    exact ⟨htext, hpath, hlast, hquery, hkeys, hnames⟩
  · rintro ⟨htext, hpath, hlast, hquery, hkeys, hnames⟩
    exact ⟨htext, ⟨hpath, hlast⟩, ⟨hquery, hkeys⟩, hnames⟩

/-- **A well-made template**: what matching and telling templates apart rely on. -/
structure WellMade (t : Template) : Prop where
  /-- A literal has some text, and so has each text of a compound. A compound has at least two pieces, a
  capture among them, and no two texts side by side. -/
  segments : ∀ s ∈ t.segments, s.WellFormed
  /-- No two captures of a compound stand side by side. -/
  apart : ∀ ps, Segment.compound ps ∈ t.segments
    → ps.IsChain fun p q => ¬ (p.isCapture = true ∧ q.isCapture = true)
  /-- What takes the rest of the path is the last segment. -/
  wildcard_last : ∀ s ∈ t.segments.dropLast, s.isWildcard = false
  /-- No two constraints are on one key, and no fixed text is empty. -/
  constraints : SoundConstraints t.queries
  /-- No key is empty. -/
  keyed : ∀ q ∈ t.queries, q.1 ≠ ""
  /-- No two names are the same. -/
  names : t.names.Pairwise fun m n => ¬ Ascii.Same m n
  /-- No name is empty. -/
  named : ∀ name ∈ t.names, name ≠ ""

/-- Captures are apart in the written form of a compound, and decoding leaves them where they are. -/
theorem isChain_of_written {part : String} {ps : List Piece}
    (h : Segment.Written part (.compound ps)) :
    ps.IsChain fun p q => ¬ (p.isCapture = true ∧ q.isCapture = true) := by
  cases h with
  | mixed _ _ hapart _ =>
    rw [List.isChain_map]
    simpa only [Piece.isCapture_decoded] using hapart

/-- The names of a segment in written form are not empty. -/
theorem name_ne_empty_of_written {part : String} {s : Segment} (h : Segment.Written part s) :
    ∀ name ∈ s.names, name ≠ "" := by
  intro name hname
  cases h with
  | star => cases hname
  | text => cases hname
  | capture hlegible =>
    obtain rfl := List.mem_singleton.1 hname
    exact hlegible.1
  | rest hlegible =>
    obtain rfl := List.mem_singleton.1 hname
    exact hlegible.1
  | mixed hnormal =>
    obtain ⟨p, hp, hname⟩ := List.mem_flatMap.1 hname
    obtain ⟨q, hq, rfl⟩ := List.mem_map.1 hp
    cases q with
    | literal text => cases hname
    | capture name' =>
      obtain rfl := List.mem_singleton.1 hname
      exact (hnormal.legible _ hq).1

/-- The key of a constraint in written form is not empty, nor is its name. -/
theorem ne_empty_of_writtenField {field : String} {c : String × QueryValue}
    (h : QueryValue.WrittenField field c) : c.1 ≠ "" ∧ ∀ name ∈ c.2.names, name ≠ "" := by
  cases h with
  | bare hfilled => exact ⟨hfilled, fun name hname => absurd hname List.not_mem_nil⟩
  | valued hfilled _ _ hwritten =>
    refine ⟨hfilled, fun name hname => ?_⟩
    cases hwritten with
    | empty => cases hname
    | text => cases hname
    | capture hlegible =>
      obtain rfl := List.mem_singleton.1 hname
      exact hlegible.1

/-- **What is compiled is well made.** -/
theorem wellMade_of_compile {text : String} {t : Template} (h : compile text = .ok t) :
    t.WellMade := by
  have hwritten := compile_eq_ok_iff_written.1 h
  have hsegment := exists_left_of_forall₂ hwritten.path
  have hfield := exists_left_of_forall₂ hwritten.query
  refine ⟨wellFormed_of_compile h, fun ps hps => ?_, hwritten.wildcard_last, (compile_sound h).1,
    fun q hq => ?_, hwritten.names, fun name hname => ?_⟩
  · obtain ⟨part, -, hpart⟩ := hsegment _ hps
    exact isChain_of_written hpart
  · obtain ⟨field, -, hq⟩ := hfield q hq
    exact (ne_empty_of_writtenField hq).1
  · rcases List.mem_append.1 hname with hname | hname
    · obtain ⟨s, hs, hname⟩ := List.mem_flatMap.1 hname
      obtain ⟨part, -, hpart⟩ := hsegment s hs
      exact name_ne_empty_of_written hpart name hname
    · obtain ⟨q, hq, hname⟩ := List.mem_flatMap.1 hname
      obtain ⟨field, -, hq⟩ := hfield q hq
      exact (ne_empty_of_writtenField hq).2 name hname

/-- **Compiling accepts exactly the written forms of templates**, makes of each the template that it is
the written form of, and every template that it makes is well made. -/
theorem compile_exactly_written (text : String) :
    (∀ t, compile text = .ok t ↔ Written text t) ∧ ∀ t, compile text = .ok t → t.WellMade :=
  ⟨fun _ => compile_eq_ok_iff_written, fun _ => wellMade_of_compile⟩

/-- A text with many of the written forms. Without the dot between its two markers it is no template,
since it could not be told where the first name ends. -/
theorem compile_exactly_written_files :
    let t : Template := ⟨"//users/\x7bid\x7d/\x7bname\x7d.\x7bext\x7d/\x7b*rest\x7d"
        ++ "?raw&as=\x7bkind\x7d&&v=1=2",
      [.literal "users", .capture "id", .compound [.capture "name", .literal ".", .capture "ext"],
        .wildcard (some "rest")], [("raw", .empty), ("as", .capture "kind"), ("v", .literal "1=2")]⟩
    Written t.text t ∧ t.WellMade ∧ ∀ u, ¬ Written "/\x7bname\x7d\x7bext\x7d" u := by
  intro t
  have ht : compile t.text = .ok t := by decide +kernel
  have hrefused : (compile "/\x7bname\x7d\x7bext\x7d").toOption = none := by decide +kernel
  obtain ⟨hwritten, hmade⟩ := compile_exactly_written t.text
  refine ⟨(hwritten t).1 ht, hmade t ht, fun u hu => ?_⟩
  rw [((compile_exactly_written _).1 u).2 hu] at hrefused
  cases hrefused

end Template

end Switchboard
