import Mathlib.Algebra.Order.BigOperators.Group.List
import Switchboard.Proofs.Demands
import Switchboard.Proofs.PathMatching
import Switchboard.Proofs.Shape
import Switchboard.Proofs.TemplateDispatch
import Switchboard.Proofs.Verbatim

/-!
# Templates that match their own text

A template without names is the text of one request: a path, and a query that it fixes. The path always
matches, since both sides decode it in the same way. The query need not: a template fixes keys and values
as they are written, while a query is read by the rules for submitted forms. So it has to be **read as
written**. It is if it is verbatim and does not start with a question mark, as one is dropped before
reading (`Query.ReadAsWritten`), and then its pairs are the written ones (`Query.parse_of_readAsWritten`).

The condition is exact (`TemplateTable.matching_own_text`). Where a pair is read as another one, that one
may be written elsewhere in the query, and be read otherwise itself, and so on, but such a chain never
closes. What is read is lighter than what is written (`Query.weight_parse_lt`), and a query that answers
all written pairs is not, as no two of them have one key (`Query.weight_le_of_value?`).
-/

namespace Switchboard

/-! ## Pairs, written and read -/

namespace Query

/-- The key and the value of a field, as they are written. -/
def cutField (field : List Char) : List Char × List Char :=
  (Text.cut? '=' field).getD (field, [])

/-- A field as the pair that is written. -/
def writtenPair (field : List Char) : String × String :=
  (String.ofList (cutField field).1, String.ofList (cutField field).2)

/-- **The pairs of a query as they are written.** -/
def written (cs : List Char) : Query :=
  (Text.filledFields '&' cs).map writtenPair

/-- The pairs that are read, those without a key among them. -/
def readPairs (cs : List Char) : Query :=
  (Text.filledFields '&' cs).map pairOfField

/-- A query is verbatim when its fields are. -/
theorem verbatim_iff_fields (cs : List Char) :
    Verbatim cs ↔ ∀ f ∈ Text.filledFields '&' cs, Verbatim f := by
  have hone : ∀ cs, '&' ∉ cs → (Verbatim cs ↔ ∀ f ∈ Text.filledFields '&' cs, Verbatim f) := by
    intro cs hcs
    rw [Text.filledFields, Text.fields_of_not_mem hcs]
    by_cases hnil : cs = []
    · subst hnil
      decide
    · simp [hnil]
  -- what follows the first separator has fewer fields
  induction hn : cs.length using Nat.strong_induction_on generalizing cs with
  | _ n ih =>
  cases hcut : Text.cut? '&' cs with
  | none => exact hone cs ((Text.cut?_eq_none_iff '&' cs).1 hcut)
  | some p =>
    obtain ⟨a, b⟩ := p
    have heq := Text.append_of_cut? hcut
    have hlength : b.length < n := by
      rw [← hn, heq, List.length_append, List.length_cons]
      omega
    have hb : Verbatim b ↔ ∀ f ∈ Text.filledFields '&' b, Verbatim f := ih b.length hlength b rfl
    rw [heq, verbatim_append (by decide) (by decide) (by decide), Text.filledFields_append,
      List.forall_mem_append, hb, hone a (Text.not_mem_of_cut? hcut)]

/-- A field is verbatim when its key and its value are. -/
theorem verbatim_iff_cutField (f : List Char) :
    Verbatim f ↔ Verbatim (cutField f).1 ∧ Verbatim (cutField f).2 := by
  unfold cutField
  cases hcut : Text.cut? '=' f with
  | none => exact (and_iff_left ⟨List.not_mem_nil, rfl⟩).symm
  | some p =>
    conv_lhs => rw [Text.append_of_cut? hcut]
    exact verbatim_append (by decide) (by decide) (by decide) p.1 p.2

/-- A verbatim field is read as it is written. -/
theorem pairOfField_of_verbatim {f : List Char} (h : Verbatim f) : pairOfField f = writtenPair f := by
  obtain ⟨hkey, hvalue⟩ := (verbatim_iff_cutField f).1 h
  show (String.ofList (unplus (cutField f).1), String.ofList (unplus (cutField f).2)) = _
  rw [unplus_of_verbatim hkey, unplus_of_verbatim hvalue]
  rfl

/-- **A query that is read as written** is verbatim and does not start with a question mark. -/
def ReadAsWritten (cs : List Char) : Prop :=
  cs.head? ≠ some '?' ∧ Verbatim cs

instance (cs : List Char) : Decidable (ReadAsWritten cs) :=
  inferInstanceAs (Decidable (_ ∧ _))

theorem dropMark_of_head? {cs : List Char} (h : cs.head? ≠ some '?') : dropMark cs = cs := by
  unfold dropMark
  split
  · exact absurd rfl h
  · rfl

/-- **The pairs of a query that is read as written are the written ones.** -/
theorem parse_of_readAsWritten {raw : String} (h : ReadAsWritten raw.toList)
    (hfilled : ∀ p ∈ written raw.toList, p.1 ≠ "") : parse raw = written raw.toList := by
  have hread : readPairs raw.toList = written raw.toList := by
    refine List.map_congr_left fun f hf => pairOfField_of_verbatim ?_
    exact (verbatim_iff_fields raw.toList).1 h.2 f hf
  show (readPairs (dropMark raw.toList)).filter _ = _
  rw [dropMark_of_head? h.1, hread, List.filter_eq_self]
  exact fun p hp => decide_eq_true (hfilled p hp)

/-! ## Weighing pairs -/

/-- The weight of a pair is that of its key and its value. -/
def pairWeight (p : String × String) : Nat :=
  Text.weight p.1.toList + Text.weight p.2.toList

/-- **The weight of a query** is that of its pairs. -/
def weight (q : Query) : Nat :=
  (q.map pairWeight).sum

theorem pairWeight_writtenPair (f : List Char) : pairWeight (writtenPair f)
    = Text.weight (cutField f).1 + Text.weight (cutField f).2 := by
  unfold pairWeight writtenPair
  rw [String.toList_ofList, String.toList_ofList]

theorem pairWeight_pairOfField (f : List Char) : pairWeight (pairOfField f)
    = Text.weight (unplus (cutField f).1) + Text.weight (unplus (cutField f).2) := by
  show Text.weight (String.ofList (unplus (cutField f).1)).toList
    + Text.weight (String.ofList (unplus (cutField f).2)).toList = _
  rw [String.toList_ofList, String.toList_ofList]

/-- A field is read as a pair that is no heavier. -/
theorem pairWeight_pairOfField_le (f : List Char) :
    pairWeight (pairOfField f) ≤ pairWeight (writtenPair f) := by
  rw [pairWeight_writtenPair, pairWeight_pairOfField]
  exact Nat.add_le_add (weight_unplus_le _) (weight_unplus_le _)

/-- A field that is not verbatim is read as a lighter pair. -/
theorem pairWeight_pairOfField_lt {f : List Char} (h : ¬ Verbatim f) :
    pairWeight (pairOfField f) < pairWeight (writtenPair f) := by
  rw [pairWeight_writtenPair, pairWeight_pairOfField]
  rw [verbatim_iff_cutField, not_and_or] at h
  rcases h with hkey | hvalue
  · exact Nat.add_lt_add_of_lt_of_le (weight_unplus_lt hkey) (weight_unplus_le _)
  · exact Nat.add_lt_add_of_le_of_lt (weight_unplus_le _) (weight_unplus_lt hvalue)

theorem weight_readPairs_le (cs : List Char) : weight (readPairs cs) ≤ weight (written cs) := by
  unfold weight readPairs written
  rw [List.map_map, List.map_map]
  exact List.sum_le_sum fun f _ => pairWeight_pairOfField_le f

theorem weight_readPairs_lt {cs : List Char} (h : ¬ Verbatim cs) :
    weight (readPairs cs) < weight (written cs) := by
  rw [verbatim_iff_fields] at h
  push Not at h
  obtain ⟨f, hf, hnot⟩ := h
  unfold weight readPairs written
  rw [List.map_map, List.map_map]
  exact List.sum_lt_sum _ _ (fun f _ => pairWeight_pairOfField_le f)
    ⟨f, hf, pairWeight_pairOfField_lt hnot⟩

/-- A question mark at the start is written in the first key. -/
theorem weight_written_mark (cs : List Char) :
    weight (written ('?' :: cs)) = 1 + weight (written cs) := by
  obtain ⟨f, fs, hfields⟩ := List.exists_cons_of_ne_nil (Text.fields_ne_nil '&' cs)
  have hmark : Text.fields '&' ('?' :: cs) = ('?' :: f) :: fs := by
    rw [Text.fields, if_neg (by decide), hfields]
    rfl
  have hkey : pairWeight (writtenPair ('?' :: f)) = 1 + pairWeight (writtenPair f) := by
    rw [pairWeight_writtenPair, pairWeight_writtenPair, ← Nat.add_assoc]
    unfold cutField
    rw [Text.cut?, if_neg (by decide)]
    cases Text.cut? '=' f <;> rfl
  have hnil : pairWeight (writtenPair []) = 0 := rfl
  unfold weight written Text.filledFields
  rw [hmark, hfields]
  cases f with
  | nil => simp [hkey, hnil]
  | cons c f => simp [hkey, Nat.add_assoc]

/-- Pairs that are dropped make a query no heavier. -/
theorem weight_filter_le (q : Query) (keep : String × String → Bool) :
    weight (q.filter keep) ≤ weight q :=
  (List.filter_sublist.map pairWeight).sum_le_sum fun _ _ => Nat.zero_le _

/-- **A query that is not read as written is read as a lighter one.** -/
theorem weight_parse_lt {raw : String} (h : ¬ ReadAsWritten raw.toList) :
    weight (parse raw) < weight (written raw.toList) := by
  have hfilter : weight (parse raw) ≤ weight (readPairs (dropMark raw.toList)) :=
    weight_filter_le _ _
  by_cases hmark : raw.toList.head? = some '?'
  · obtain ⟨cs, hcs⟩ := List.head?_eq_some_iff.1 hmark
    rw [hcs] at hfilter ⊢
    have hread := weight_readPairs_le cs
    rw [weight_written_mark]
    have hdrop : dropMark ('?' :: cs) = cs := rfl
    rw [hdrop] at hfilter
    omega
  · rw [dropMark_of_head? hmark] at hfilter
    exact hfilter.trans_lt (weight_readPairs_lt fun hverbatim => h ⟨hmark, hverbatim⟩)

/-- Letter case has no weight. -/
theorem weight_upper (s : String) : Text.weight (Ascii.upper s).toList = Text.weight s.toList := by
  rw [Ascii.toList_upper]
  induction s.toList with
  | nil => rfl
  | cons c cs ih =>
    have hplus : c.toUpper = '+' ↔ c = '+' :=
      ⟨fun h => Ascii.eq_of_toUpper_eq h rfl, fun h => by subst h; rfl⟩
    rw [List.map_cons, Text.weight, Text.weight, ih]
    simp only [hplus]

/-- **Pairs with different keys that a query answers weigh no more than the query**: each is one of its
pairs, up to the case of the key. -/
theorem weight_le_of_value? {ps q : Query} (hkeys : ps.Pairwise fun a b => ¬ Ascii.Same a.1 b.1)
    (h : ∀ p ∈ ps, q.value? p.1 = some p.2) : weight ps ≤ weight q := by
  let raised : String × String → String × String := fun p => (Ascii.upper p.1, p.2)
  have hweight : ∀ l : Query, weight (l.map raised) = weight l := by
    intro l
    unfold weight
    rw [List.map_map]
    refine congrArg List.sum (List.map_congr_left fun p _ => ?_)
    show Text.weight (Ascii.upper p.1).toList + _ = _
    rw [weight_upper]
    rfl
  have hnodup : (ps.map raised).Nodup := by
    refine List.Nodup.of_map Prod.fst ?_
    rw [List.map_map]
    exact List.pairwise_map.2 hkeys
  have hsubset : ps.map raised ⊆ q.map raised := by
    intro r hr
    obtain ⟨p, hp, rfl⟩ := List.mem_map.1 hr
    obtain ⟨p', hfound, hvalue⟩ := Option.map_eq_some_iff.1 (h p hp)
    obtain ⟨hmem, hsame⟩ := Ascii.of_find?_eq_some hfound
    exact List.mem_map.2 ⟨p', hmem, Prod.ext hsame hvalue⟩
  obtain ⟨l, hperm, hsublist⟩ := List.subperm_of_subset hnodup hsubset
  calc weight ps = weight (ps.map raised) := (hweight ps).symm
    _ = weight l := ((hperm.map pairWeight).sum_eq).symm
    _ ≤ weight (q.map raised) := (hsublist.map pairWeight).sum_le_sum fun _ _ => Nat.zero_le _
    _ = weight q := hweight q

/-- **A query answers all pairs that are written in it exactly if it is read as written.** -/
theorem value?_written_iff {raw : String}
    (hkeys : (written raw.toList).Pairwise fun a b => ¬ Ascii.Same a.1 b.1)
    (hfilled : ∀ p ∈ written raw.toList, p.1 ≠ "") :
    (∀ p ∈ written raw.toList, (parse raw).value? p.1 = some p.2) ↔ ReadAsWritten raw.toList := by
  constructor
  · intro h
    by_contra hnot
    exact absurd (weight_parse_lt hnot) (Nat.not_lt.2 (weight_le_of_value? hkeys h))
  · intro h p hp
    rw [parse_of_readAsWritten h hfilled]
    exact congrArg (Option.map Prod.snd) (Ascii.find?_of_mem hkeys hp)

end Query

/-! ## Templates without names -/

/-- A value without a name fixes the text it is written as. -/
theorem QueryValue.fixed?_of_compile {key value : String} {v : QueryValue}
    (h : QueryValue.compile key value = .ok v) (hnames : v.names = []) : v.fixed? = some value := by
  unfold QueryValue.compile at h
  split at h
  next hvalue =>
    cases h
    rw [hvalue]
    rfl
  next =>
    obtain ⟨pieces, -, h⟩ := ok_of_bind_eq_ok h
    unfold QueryValue.ofPieces at h
    split at h
    · split at h
      · cases h
      · cases h
        cases hnames
    · split at h
      · cases h
      · cases h
        rfl

namespace Template

/-- **A constraint that is read from a written pair** is on its key, and without a name it fixes its
value. -/
structure ReadFrom (c : String × QueryValue) (p : String × String) : Prop where
  /-- The key is the one that is written. -/
  key : c.1 = p.1
  /-- It has a character. -/
  filled : p.1 ≠ ""
  /-- The value is the one that is written, unless it is named. -/
  fixed : c.2.names = [] → c.2.fixed? = some p.2

theorem readFrom_of_addConstraint {seen queries : List (String × QueryValue)} {field : List Char}
    (h : addConstraint seen field = .ok queries) :
    ∃ c, queries = seen ++ [c] ∧ ReadFrom c (Query.writtenPair field) := by
  unfold addConstraint at h
  dsimp only at h
  split at h
  · cases h
  next hkey =>
  split at h
  · cases h
  obtain ⟨v, hv, h⟩ := ok_of_bind_eq_ok h
  cases h
  refine ⟨_, rfl, rfl, fun hempty => hkey ?_, QueryValue.fixed?_of_compile hv⟩
  have hempty : String.ofList ((Text.cut? '=' field).getD (field, [])).1 = "" := hempty
  rw [hempty]
  rfl

/-- Constraints are read from the pairs that are written, in order. -/
theorem readFrom_of_foldlM {fields : List (List Char)} {seen queries : List (String × QueryValue)}
    {ps : Query} (hseen : List.Forall₂ ReadFrom seen ps)
    (h : fields.foldlM addConstraint seen = .ok queries) :
    List.Forall₂ ReadFrom queries (ps ++ fields.map Query.writtenPair) := by
  induction fields generalizing seen ps with
  | nil =>
    cases h
    rw [List.map_nil, List.append_nil]
    exact hseen
  | cons f fields ih =>
    rw [List.foldlM_cons] at h
    obtain ⟨next, hnext, hrest⟩ := ok_of_bind_eq_ok h
    obtain ⟨c, rfl, hc⟩ := readFrom_of_addConstraint hnext
    have hone : List.Forall₂ ReadFrom (seen ++ [c]) (ps ++ [Query.writtenPair f]) :=
      List.rel_append hseen (.cons hc .nil)
    rw [List.map_cons, List.append_cons]
    exact ih hone hrest

section Written

variable {text : String} {t : Template}

/-- A template has no names when its segments and its constraints have none. -/
theorem names_eq_nil_iff : t.names = []
    ↔ (∀ s ∈ t.segments, s.names = []) ∧ ∀ c ∈ t.queries, c.2.names = [] := by
  unfold names pathNames
  rw [List.append_eq_nil_iff, List.flatMap_eq_nil_iff, List.flatMap_eq_nil_iff]

/-- **The constraints of a compiled template are read from the pairs of its text.** -/
theorem readFrom_of_compile (ht : compile text = .ok t) :
    List.Forall₂ ReadFrom t.queries (Query.written (queryPart text).toList) := by
  obtain ⟨-, -, hquery, -⟩ := compile_eq_ok_iff.1 ht
  have hread : List.Forall₂ ReadFrom t.queries ([] ++ Query.written (queryPart text).toList) :=
    readFrom_of_foldlM .nil hquery
  rwa [List.nil_append] at hread

/-- The pairs of a template text have different keys. -/
theorem written_keys_of_compile (ht : compile text = .ok t) :
    (Query.written (queryPart text).toList).Pairwise fun a b => ¬ Ascii.Same a.1 b.1 := by
  have hkeys : t.queries.map Prod.fst = (Query.written (queryPart text).toList).map Prod.fst :=
    map_eq_of_forall₂ ReadFrom.key (readFrom_of_compile ht)
  have hdistinct : (t.queries.map Prod.fst).Pairwise fun a b => ¬ Ascii.Same a b :=
    List.pairwise_map.2 (compile_sound ht).1.keys
  rw [hkeys] at hdistinct
  exact List.pairwise_map.1 hdistinct

/-- The pairs of a template text have keys. -/
theorem written_filled_of_compile (ht : compile text = .ok t) :
    ∀ p ∈ Query.written (queryPart text).toList, p.1 ≠ "" := by
  intro p hp
  obtain ⟨c, -, hc⟩ := exists_left_of_forall₂ (readFrom_of_compile ht) p hp
  exact hc.filled

/-- **A template without names takes the queries that answer the pairs of its text.** -/
theorem takes_iff_written (ht : compile text = .ok t) (hnames : t.names = []) (query : Query) :
    (t.isPlain ∨ t.matchesQuery query false)
      ↔ ∀ p ∈ Query.written (queryPart text).toList, query.value? p.1 = some p.2 := by
  have hfixed := (List.forall₂_and_left _ _).2
    ⟨(names_eq_nil_iff.1 hnames).2, readFrom_of_compile ht⟩
  have hanswer : (∀ c ∈ t.queries, c.2.Accepts false (query.value? c.1))
      ↔ ∀ p ∈ Query.written (queryPart text).toList, query.value? p.1 = some p.2 := by
    refine forall_iff_of_forall₂ (fun {c p} hc => ?_) hfixed
    rw [QueryValue.accepts_of_fixed? (hc.2.fixed hc.1), hc.2.key]
  rw [matchesQuery_iff, ← hanswer]
  cases hplain : t.isPlain with
  | false => simp
  | true =>
    refine iff_of_true (Or.inl rfl) ?_
    rw [List.isEmpty_iff.1 hplain]
    exact fun c hc => absurd hc List.not_mem_nil

end Written

end Template

namespace Segment

/-- **A segment without names that is no wildcard is its text, decoded.** -/
theorem eq_literal_of_compile {part : String} {s : Segment} (h : compile part = .ok s)
    (hnames : s.names = []) (hwildcard : s.isWildcard = false) :
    s = .literal (Path.decodeSegment part) := by
  unfold compile at h
  split at h
  · cases h
    cases hwildcard
  obtain ⟨pieces, -, h⟩ := ok_of_bind_eq_ok h
  unfold ofPieces at h
  split at h
  next name =>
    unfold ofName at h
    split at h
    · cases h
    · cases h
      cases hwildcard
    · cases h
      cases hnames
  split at h
  next hcapture =>
    -- a capture among the pieces has a name, decoded or not
    exfalso
    obtain ⟨p, hp, hp'⟩ := List.any_eq_true.1 hcapture
    unfold ofMixed at h
    split at h
    · cases h
    split at h
    · cases h
    cases h
    cases p with
    | literal text => cases hp'
    | capture name =>
      have hnone := List.flatMap_eq_nil_iff.1 hnames _ (List.mem_map_of_mem hp)
      cases hnone
  next =>
    cases h
    rfl

/-- Texts match themselves. -/
theorem matchAll_literals (texts : List String) : matchAll (texts.map literal) texts = some [] := by
  induction texts with
  | nil => rfl
  | cons text texts ih =>
    have hone : (literal text).matchOne text = some [] := if_pos (Ascii.same_refl text)
    rw [List.map_cons, matchAll_cons_cons rfl, hone, ih]
    rfl

end Segment

namespace Template

variable {text : String} {t : Template}

/-- A template without names binds nothing of a query. -/
theorem queryBindings_of_names (hnames : t.names = []) (query : Query) :
    t.queryBindings query = [] := by
  refine List.flatMap_eq_nil_iff.2 fun c hc => ?_
  rw [(names_eq_nil_iff.1 hnames).2 c hc, List.filterMap_nil]

/-- **A template without names and wildcard matches its own path.** -/
theorem matchPath_own (ht : compile text = .ok t) (hnames : t.names = [])
    (hwildcard : ∀ s ∈ t.segments, s.isWildcard = false) :
    t.matchPath (Path.decodedSegments (pathPart text)) = some [] := by
  obtain ⟨-, hpath, -⟩ := compile_eq_ok_iff.1 ht
  have hread := forall₂_of_mapM_ok (compilePath_eq_ok_iff.1 hpath).1
  rw [String.ofList_toList] at hread
  have hplain : ∀ s ∈ t.segments, s.names = [] ∧ s.isWildcard = false := fun s hs =>
    ⟨(names_eq_nil_iff.1 hnames).1 s hs, hwildcard s hs⟩
  have hparts : List.Forall₂ (fun s part => Segment.compile part = .ok s) t.segments
      (Path.segments (pathPart text)) := List.Forall₂.flip hread
  have hliterals : t.segments.map id
      = (Path.segments (pathPart text)).map (Segment.literal ∘ Path.decodeSegment) := by
    refine map_eq_of_forall₂ (fun {s part} hs => ?_) ((List.forall₂_and_left _ _).2 ⟨hplain, hparts⟩)
    exact Segment.eq_literal_of_compile hs.2 hs.1.1 hs.1.2
  rw [List.map_id, ← List.map_map] at hliterals
  rw [matchPath, hliterals]
  exact Segment.matchAll_literals _

end Template

namespace TemplateGroup

variable {P : Type}

/-- A group of one template answers where the path matches and the template takes the query. -/
theorem matching_singleton {shape : String} {e : TemplateEntry P} {path : List String} {b : Bindings}
    (hpath : e.template.matchPath path = some b) (query : Query) :
    matching ⟨shape, [e]⟩ path query
      = if e.template.isPlain ∨ e.template.matchesQuery query false then [answer query (e, b)]
        else [] := by
  have hhits : pathHits ⟨shape, [e]⟩ path = [(e, b)] := by
    unfold pathHits
    rw [List.filterMap_cons, hpath]
    rfl
  unfold matching
  dsimp only
  rw [hhits]
  cases htier : tier? query [(e, b)] with
  | none =>
    have hnone := List.find?_eq_none.1 htier
    refine (if_neg ?_).symm
    rintro (hplain | hmatch)
    · exact hnone .plain (by decide) (by rw [List.any_cons, Tier.admits, hplain]; rfl)
    · exact hnone .interesting (by decide) (by rw [List.any_cons, Tier.admits, hmatch]; rfl)
  | some tier =>
    have hadmits := List.find?_some htier
    rw [List.any_cons, List.any_nil, Bool.or_false] at hadmits
    have htakes : e.template.isPlain ∨ e.template.matchesQuery query false :=
      (Tier.matchesQuery_of_admits hadmits).elim Or.inr fun hplain => Or.inl hplain.2
    have hfilter : ([(e, b)].filter fun h => tier.admits query h.1.template) = [(e, b)] := by
      rw [List.filter_cons, if_pos hadmits, List.filter_nil]
    dsimp only
    rw [if_pos htakes, hfilter, List.map_singleton]

end TemplateGroup

/-! ## Asking for the own text -/

/-- A template by itself passes the check. -/
theorem Template.checkGroup_singleton (dup : Bool) {t : Template} (ht : t.Sound) :
    checkGroup dup [t] = .ok () := by
  have hone : ∀ keep : Template → Bool, ([t].filter keep).length ≤ 1 := fun keep =>
    List.length_filter_le keep [t]
  refine (checkGroup_eq_ok_iff fun a ha => ?_).2 ⟨fun _ => hone _, Or.inl (hone _)⟩
  rw [List.mem_singleton.1 ha]
  exact ht

namespace TemplateTable

variable {P : Type}

/-- **A template without names and wildcard answers its own text exactly if its query is read as
written.** A table for all paths that holds nothing else answers the path and the query of the text with
the template, which binds nothing; if the query is read otherwise, there is no answer. -/
theorem matching_own_text {text : String} {t : Template} (ht : Template.compile text = .ok t)
    (hnames : t.names = []) (hwildcard : ∀ s ∈ t.segments, s.isWildcard = false) (dup : Bool)
    (payload : P) : ∃ table, (empty dup none).add text payload = .ok table
      ∧ table.matching (Template.pathPart text) (Query.parse (Template.queryPart text))
        = if Query.ReadAsWritten (Template.queryPart text).toList then [⟨payload, text, []⟩]
          else [] := by
  obtain ⟨hsound, htext⟩ := Template.compile_sound ht
  refine ⟨_, add_eq_ok_iff.2 ⟨t, ht, Template.checkGroup_singleton dup hsound, rfl⟩, ?_⟩
  have hpath := Template.matchPath_own ht hnames hwildcard
  have htakes := (Template.takes_iff_written ht hnames (Query.parse (Template.queryPart text))).trans
    (Query.value?_written_iff (Template.written_keys_of_compile ht)
      (Template.written_filled_of_compile ht))
  show ([⟨t.shape, [⟨t, payload⟩]⟩] : List (TemplateGroup P)).flatMap _ = _
  rw [List.flatMap_singleton, TemplateGroup.matching_singleton hpath]
  by_cases hread : Query.ReadAsWritten (Template.queryPart text).toList
  · rw [if_pos hread, if_pos (htakes.2 hread), TemplateGroup.answer]
    dsimp only
    rw [Template.queryBindings_of_names hnames, htext]
    rfl
  · rw [if_neg hread, if_neg fun h => hread (htakes.1 h)]

/-- A text with escapes in its path only is answered. One with a space that is written as forms write it
is not: the template asks for the plus. -/
theorem matching_own_text_items :
    let a : Template := ⟨"/Items/%7Bnew%7D?Kind=50%&open", [.literal "Items", .literal "\x7bnew\x7d"],
      [("Kind", .literal "50%"), ("open", .empty)]⟩
    let b : Template := ⟨"/items?kind=a+b", [.literal "items"], [("kind", .literal "a+b")]⟩
    Template.compile a.text = .ok a ∧ Template.compile b.text = .ok b
      ∧ (∃ table, (empty false none).add a.text 1 = .ok table
        ∧ table.matching "/Items/%7Bnew%7D" (Query.parse "Kind=50%&open") = [⟨1, a.text, []⟩])
      ∧ ∃ table, (empty false none).add b.text 2 = .ok table
        ∧ table.matching "/items" (Query.parse "kind=a+b") = [] := by
  intro a b
  have ha : Template.compile a.text = .ok a := by decide +kernel
  have hb : Template.compile b.text = .ok b := by decide +kernel
  have hawild : ∀ s ∈ a.segments, s.isWildcard = false := by decide
  have hbwild : ∀ s ∈ b.segments, s.isWildcard = false := by decide
  have hapath : Template.pathPart a.text = "/Items/%7Bnew%7D" := by decide +kernel
  have hbpath : Template.pathPart b.text = "/items" := by decide +kernel
  have haquery : Template.queryPart a.text = "Kind=50%&open" := by decide +kernel
  have hbquery : Template.queryPart b.text = "kind=a+b" := by decide +kernel
  have haread : Query.ReadAsWritten "Kind=50%&open".toList := by decide +kernel
  have hbread : ¬ Query.ReadAsWritten "kind=a+b".toList := by decide +kernel
  obtain ⟨table, hadd, hmatch⟩ := matching_own_text ha rfl hawild false 1
  obtain ⟨table', hadd', hmatch'⟩ := matching_own_text hb rfl hbwild false 2
  rw [hapath, haquery, if_pos haread] at hmatch
  rw [hbpath, hbquery, if_neg hbread] at hmatch'
  exact ⟨ha, hb, ⟨table, hadd, hmatch⟩, table', hadd', hmatch'⟩

/-- **A template can leave its own text unanswered**: it asks for the escape that is written, and the
request has what the escape stands for. -/
theorem own_text_unanswered :
    ∃ t : Template, Template.compile "/a?k=a%20b" = .ok t ∧ t.names = []
      ∧ (∀ s ∈ t.segments, s.isWildcard = false)
      ∧ Template.pathPart t.text = "/a" ∧ Template.queryPart t.text = "k=a%20b"
      ∧ ∃ table, (empty false none).add t.text "p" = .ok table
        ∧ Query.parse "k=a%20b" = [("k", "a b")]
        ∧ table.matching "/a" (Query.parse "k=a%20b") = [] := by
  let t : Template := ⟨"/a?k=a%20b", [.literal "a"], [("k", .literal "a%20b")]⟩
  have ht : Template.compile t.text = .ok t := by decide +kernel
  have hcheck : Template.checkGroup false [t] = .ok () := by decide +kernel
  have hquery : Query.parse "k=a%20b" = [("k", "a b")] := by decide +kernel
  have hmatch : ([⟨t.shape, [⟨t, "p"⟩]⟩] : List (TemplateGroup String)).flatMap
      (fun g => g.matching (Path.decodedSegments "/a") (Query.parse "k=a%20b")) = [] := by
    decide +kernel
  refine ⟨t, ht, rfl, by decide, by decide +kernel, by decide +kernel, _,
    add_eq_ok_iff.2 ⟨t, ht, hcheck, rfl⟩, hquery, hmatch⟩

end TemplateTable

end Switchboard
