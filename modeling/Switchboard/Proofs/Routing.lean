import Mathlib.Data.List.Forall2
import Switchboard.Proofs.Shape
import Switchboard.Proofs.Spelling
import Switchboard.Proofs.TemplateDispatch

/-!
# What routing depends on

A table should route two requests the same way if they differ only in what a client may write as it
likes: the letter case of the path, its escapes and extra slashes, parameters that no template asks
for. So a request is compared with another one, not with a template, and each step of matching is shown
to keep the two together: what is left of a path below the base, the texts that a compound is cut into,
the bindings of a segment and of a path, the entries of a group whose path matches.

Two outcomes go together if neither is a match, or both are, and what they bind is **alike**: the same
names in the same order, bound to texts that are the same up to case (`Bindings.Alike`). A compound is
where this could fail. Its captures take the shortest texts that let the rest match, found by trying;
but the cuts of two texts that are the same up to case are the same cuts, so the first that succeeds is
at one place in both (`Piece.matchAll_rel`).

The query is read only at the keys that templates declare, so a template matches in the same tiers and
binds the same values (`Template.SameQuery`). As all templates of a group stay in their tiers, the most
specific one that has any is the same, and so are the answers (`TemplateTable.matching_alike`).
-/

namespace Switchboard

/-! ## Two outcomes side by side -/

namespace OptionRel

variable {α β γ δ : Type} {R : α → β → Prop} {S : γ → δ → Prop}

/-- Readings that go on alike from outcomes that are related have related outcomes. -/
theorem bind {x : Option α} {y : Option β} (h : Option.Rel R x y) {f : α → Option γ}
    {g : β → Option δ} (hfg : ∀ {a b}, R a b → Option.Rel S (f a) (g b)) :
    Option.Rel S (x.bind f) (y.bind g) := by
  cases h with
  | none => exact .none
  | some h => exact hfg h

theorem map {x : Option α} {y : Option β} (h : Option.Rel R x y) {f : α → γ} {g : β → δ}
    (hfg : ∀ {a b}, R a b → S (f a) (g b)) : Option.Rel S (x.map f) (y.map g) := by
  cases h with
  | none => exact .none
  | some h => exact .some (hfg h)

/-- The first successes among attempts that are related pairwise are related. -/
theorem findSome? {l : List α} {l' : List β} (h : List.Forall₂ R l l') {f : α → Option γ}
    {g : β → Option δ} (hfg : ∀ {a b}, R a b → Option.Rel S (f a) (g b)) :
    Option.Rel S (l.findSome? f) (l'.findSome? g) := by
  induction h with
  | nil => exact .none
  | @cons a b l l' hab _ ih =>
    rw [List.findSome?_cons, List.findSome?_cons]
    have hfirst := hfg hab
    generalize f a = x at hfirst ⊢
    generalize g b = y at hfirst ⊢
    cases hfirst with
    | none => exact ih
    | some h => exact .some h

end OptionRel

/-! ## Text up to letter case -/

namespace Ascii

/-- **Characters that are the same up to case**, one by one. -/
def SameChars (cs cs' : List Char) : Prop :=
  cs.map Char.toUpper = cs'.map Char.toUpper

theorem sameChars_ofList {cs cs' : List Char} (h : SameChars cs cs') :
    Same (String.ofList cs) (String.ofList cs') := by
  rw [same_iff, String.toList_ofList, String.toList_ofList]
  exact h

/-- What a text is compared with at its start makes no difference between texts that are the same. -/
theorem dropSame_rel (start : List Char) {cs cs' : List Char} (h : SameChars cs cs') :
    Option.Rel SameChars (dropSame start cs) (dropSame start cs') := by
  induction start generalizing cs cs' with
  | nil => exact .some h
  | cons s start ih =>
    match cs, cs', h with
    | [], [], _ => exact .none
    | c :: cs, c' :: cs', h =>
      obtain ⟨hhead, htail⟩ := List.cons.inj h
      rw [dropSame, dropSame, ← show c.toUpper = c'.toUpper from hhead]
      split
      · exact ih htail
      · exact .none

theorem upper_append (a b : String) : upper (a ++ b) = upper a ++ upper b := by
  rw [← String.toList_inj]
  simp

theorem upper_intercalate (sep : String) (l : List String) :
    upper (String.intercalate sep l) = String.intercalate (upper sep) (l.map upper) := by
  induction l with
  | nil => rfl
  | cons a l ih =>
    cases l with
    | nil => rw [String.intercalate_singleton, List.map_singleton, String.intercalate_singleton]
    | cons b l =>
      rw [String.intercalate_cons_cons, upper_append, upper_append, ih]
      exact String.intercalate_cons_cons.symm

/-- Texts with separators between them are the same if they are the same one by one. -/
theorem same_intercalate (sep : String) {l l' : List String} (h : List.Forall₂ Same l l') :
    Same (String.intercalate sep l) (String.intercalate sep l') := by
  show upper _ = upper _
  rw [upper_intercalate, upper_intercalate, map_eq_of_forall₂ id h]

end Ascii

/-! ## Matching a path -/

/-- **Bindings that are alike**: the same names in the same order, bound to texts that are the same up
to case. -/
def Bindings.Alike (b b' : Bindings) : Prop :=
  List.Forall₂ (fun x y => x.1 = y.1 ∧ Ascii.Same x.2 y.2) b b'

theorem cuts_rel {cs cs' : List Char} (h : Ascii.SameChars cs cs') :
    List.Forall₂ (fun p q => Ascii.SameChars p.1 q.1 ∧ Ascii.SameChars p.2 q.2) (cuts cs)
      (cuts cs') := by
  induction cs generalizing cs' with
  | nil =>
    match cs', h with
    | [], _ => exact .nil
  | cons c cs ih =>
    match cs', h with
    | c' :: cs', h =>
      obtain ⟨hhead, htail⟩ := List.cons.inj h
      refine .cons ⟨congrArg (· :: []) hhead, htail⟩ ?_
      rw [List.forall₂_map_left_iff, List.forall₂_map_right_iff]
      exact (ih htail).imp (fun p q hpq => ⟨congrArg₂ List.cons hhead hpq.1, hpq.2⟩)

namespace Piece

/-- **The pieces of a compound match texts alike.** -/
theorem matchAll_rel (ps : List Piece) {cs cs' : List Char} (h : Ascii.SameChars cs cs') :
    Option.Rel Bindings.Alike (matchAll ps cs) (matchAll ps cs') := by
  induction ps generalizing cs cs' with
  | nil =>
    match cs, cs', h with
    | [], [], _ => exact .some .nil
    | _ :: _, _ :: _, _ => exact .none
  | cons p ps ih =>
    cases p with
    | literal text =>
      rw [matchAll, matchAll]
      exact OptionRel.bind (Ascii.dropSame_rel _ h) ih
    | capture name =>
      -- the cuts are tried in step, and what a cut leaves is matched by the other pieces
      rw [matchAll, matchAll]
      refine OptionRel.findSome? (cuts_rel h) (fun hpq => ?_)
      exact OptionRel.map (ih hpq.2) (fun hb => .cons ⟨rfl, Ascii.sameChars_ofList hpq.1⟩ hb)

end Piece

namespace Segment

theorem matchOne_rel (s : Segment) {a a' : String} (h : Ascii.Same a a') :
    Option.Rel Bindings.Alike (s.matchOne a) (s.matchOne a') := by
  cases s with
  | literal text =>
    have hiff : Ascii.Same text a ↔ Ascii.Same text a' :=
      ⟨fun htext => htext.trans h, fun htext => htext.trans h.symm⟩
    rw [matchOne, matchOne, ← if_congr hiff rfl rfl]
    split
    · exact .some .nil
    · exact .none
  | capture name => exact .some (.cons ⟨rfl, h⟩ .nil)
  | compound ps => exact Piece.matchAll_rel ps ((Ascii.same_iff a a').1 h)
  | wildcard name => exact .none

/-- A segment that is no wildcard takes one segment of each path. -/
theorem matchAll_cons_rel {s : Segment} (ss : List Segment) (hs : ∀ name, s ≠ .wildcard name)
    (hrest : ∀ {actual actual' : List String}, List.Forall₂ Ascii.Same actual actual'
      → Option.Rel Bindings.Alike (matchAll ss actual) (matchAll ss actual'))
    {actual actual' : List String} (h : List.Forall₂ Ascii.Same actual actual') :
    Option.Rel Bindings.Alike (matchAll (s :: ss) actual) (matchAll (s :: ss) actual') := by
  cases h with
  | nil =>
    rw [matchAll]
    · exact .none
    · exact hs
  | @cons a a' actual actual' ha h =>
    rw [matchAll, matchAll]
    · refine OptionRel.bind (s.matchOne_rel ha) (fun hb => ?_)
      exact OptionRel.map (hrest h) (fun hb' => List.rel_append hb hb')
    · exact hs
    · exact hs

/-- **The segments of a template match paths alike.** -/
theorem matchAll_rel (ss : List Segment) {actual actual' : List String}
    (h : List.Forall₂ Ascii.Same actual actual') :
    Option.Rel Bindings.Alike (matchAll ss actual) (matchAll ss actual') := by
  induction ss generalizing actual actual' with
  | nil =>
    cases h with
    | nil => exact .some .nil
    | cons => exact .none
  | cons s ss ih =>
    cases s with
    | wildcard name =>
      -- the one segment that can match paths of any length
      rw [matchAll, matchAll]
      refine .some ?_
      cases name with
      | none => exact .nil
      | some n => exact .cons ⟨rfl, Ascii.same_intercalate "/" h⟩ .nil
    | literal _ | capture _ | compound _ =>
      exact matchAll_cons_rel ss (fun _ hname => by cases hname) ih h

end Segment

namespace Template

/-- **A template matches paths alike.** -/
theorem matchPath_rel (t : Template) {path path' : List String}
    (h : List.Forall₂ Ascii.Same path path') :
    Option.Rel Bindings.Alike (t.matchPath path) (t.matchPath path') :=
  Segment.matchAll_rel t.segments h

/-! ## Reading a query -/

/-- **Two queries are the same to a template**: they give one value, or none, at each of its keys. -/
def SameQuery (t : Template) (query query' : Query) : Prop :=
  ∀ c ∈ t.queries, query.value? c.1 = query'.value? c.1

section SameQuery

variable {t : Template} {query query' : Query}

theorem SameQuery.matchesQuery_eq (h : t.SameQuery query query') (strict : Bool) :
    t.matchesQuery query strict = t.matchesQuery query' strict := by
  unfold matchesQuery
  congr 1
  rw [Bool.eq_iff_iff, List.all_eq_true, List.all_eq_true]
  refine forall₂_congr (fun c hc => ?_)
  unfold answers
  rw [h c hc]

theorem SameQuery.queryBindings_eq (h : t.SameQuery query query') :
    t.queryBindings query = t.queryBindings query' := by
  unfold queryBindings
  refine List.flatMap_congr (fun c hc => ?_)
  rw [h c hc]

theorem SameQuery.admits_eq (h : t.SameQuery query query') (tier : Tier) :
    tier.admits query t = tier.admits query' t := by
  cases tier with
  | strict => exact h.matchesQuery_eq true
  | interesting => exact h.matchesQuery_eq false
  | plain => rfl

end SameQuery

end Template

/-! ## Groups and tables -/

/-- **Answers that are alike**: one registration, and alike bindings. -/
structure TemplateMatch.Alike {P : Type} (m m' : TemplateMatch P) : Prop where
  /-- The payloads are equal. -/
  payload_eq : m.payload = m'.payload
  /-- The templates are written alike. -/
  template_eq : m.template = m'.template
  /-- The bindings are alike. -/
  bindings : m.bindings.Alike m'.bindings

theorem Bindings.alike_refl (b : Bindings) : b.Alike b :=
  List.forall₂_same.2 (fun _ _ => ⟨rfl, Ascii.same_refl _⟩)

namespace TemplateGroup

variable {P : Type} {query query' : Query}

/-- Path hits of one entry whose bindings are alike. -/
def HitAlike (h h' : TemplateEntry P × Bindings) : Prop :=
  h.1 = h'.1 ∧ h.2.Alike h'.2

theorem pathHits_rel (g : TemplateGroup P) {path path' : List String}
    (h : List.Forall₂ Ascii.Same path path') :
    List.Forall₂ HitAlike (g.pathHits path) (g.pathHits path') := by
  refine List.rel_filterMap (R := Eq) (P := HitAlike) ?_ (List.forall₂_refl g.entries)
  rintro e _ rfl
  exact OptionRel.map (e.template.matchPath_rel h) (fun hb => ⟨rfl, hb⟩)

/-- Hits that are alike are of one tier. -/
theorem tier?_of_alike {hits hits' : List (TemplateEntry P × Bindings)}
    (h : List.Forall₂ HitAlike hits hits') (query : Query) :
    tier? query hits = tier? query hits' := by
  have hentries : hits.map Prod.fst = hits'.map Prod.fst := map_eq_of_forall₂ And.left h
  have hany : ∀ hits : List (TemplateEntry P × Bindings), tier? query hits
      = Tier.all.find? fun tier =>
          (hits.map Prod.fst).any fun e => tier.admits query e.template := by
    intro hits
    unfold tier?
    congr 1
    funext tier
    rw [List.any_map]
    rfl
  rw [hany, hany, hentries]

/-- Hits are of one tier for queries that are the same to their templates. -/
theorem tier?_of_sameQuery {hits : List (TemplateEntry P × Bindings)}
    (h : ∀ hit ∈ hits, hit.1.template.SameQuery query query') :
    tier? query hits = tier? query' hits := by
  unfold tier?
  congr 1
  funext tier
  rw [Bool.eq_iff_iff, List.any_eq_true, List.any_eq_true]
  refine exists_congr (fun hit => and_congr_right (fun hhit => ?_))
  rw [(h hit hhit).admits_eq tier]

theorem answer_alike {hit hit' : TemplateEntry P × Bindings} (h : HitAlike hit hit')
    (query : Query) : (answer query hit).Alike (answer query hit') := by
  obtain ⟨e, b⟩ := hit
  obtain ⟨e', b'⟩ := hit'
  obtain ⟨rfl, hb⟩ := h
  exact ⟨rfl, rfl, List.rel_append hb (Bindings.alike_refl _)⟩

/-- **A group answers alike** on paths that are the same up to case. -/
theorem matching_rel (g : TemplateGroup P) {path path' : List String}
    (h : List.Forall₂ Ascii.Same path path') (query : Query) :
    List.Forall₂ TemplateMatch.Alike (g.matching path query) (g.matching path' query) := by
  have hhits := g.pathHits_rel h
  unfold matching
  dsimp only
  rw [tier?_of_alike hhits query]
  cases tier? query (g.pathHits path') with
  | none => exact .nil
  | some tier =>
    refine List.rel_map (R := HitAlike) (fun _ _ hhit => answer_alike hhit query) ?_
    refine List.rel_filter (fun hit hit' hhit => ?_) hhits
    show tier.admits query hit.1.template = true ↔ tier.admits query hit'.1.template = true
    rw [hhit.1]

/-- **A group answers the same** to queries that are the same to its templates. -/
theorem matching_congr (g : TemplateGroup P) (path : List String)
    (h : ∀ a ∈ g.templates, a.SameQuery query query') :
    g.matching path query = g.matching path query' := by
  have hhits : ∀ hit ∈ g.pathHits path, hit.1.template.SameQuery query query' :=
    fun hit hhit => h _ ((g.pathHits_sublist path).subset (List.mem_map_of_mem hhit))
  unfold matching
  dsimp only
  rw [tier?_of_sameQuery hhits]
  cases tier? query' (g.pathHits path) with
  | none => rfl
  | some tier =>
    dsimp only
    rw [List.filter_congr (fun hit hhit => (hhits hit hhit).admits_eq tier)]
    refine List.map_congr_left (fun hit hhit => ?_)
    unfold answer
    rw [(hhits hit (List.mem_filter.1 hhit).1).queryBindings_eq]

end TemplateGroup

namespace TemplateTable

variable {P : Type}

theorem below_rel (base : List String) {path path' : List String}
    (h : List.Forall₂ Ascii.Same path path') :
    Option.Rel (List.Forall₂ Ascii.Same) (below base path) (below base path') := by
  induction base generalizing path path' with
  | nil => exact .some h
  | cons b base ih =>
    cases h with
    | nil => exact .none
    | @cons p p' path path' hp h =>
      have hiff : Ascii.Same p b ↔ Ascii.Same p' b := ⟨hp.symm.trans, hp.trans⟩
      rw [below, below, ← if_congr hiff rfl rfl]
      split
      · exact ih h
      · exact .none

/-- **Two queries are the same to a table**: they give one value, or none, at each key that a template
declares. -/
def SameQuery (t : TemplateTable P) (query query' : Query) : Prop :=
  ∀ a ∈ t.templates, a.SameQuery query query'

/-- **The table answers alike** on paths whose segments are the same up to case. -/
theorem matching_rel (t : TemplateTable P) {path path' : String}
    (h : List.Forall₂ Ascii.Same (Path.decodedSegments path) (Path.decodedSegments path'))
    (query : Query) :
    List.Forall₂ TemplateMatch.Alike (t.matching path query) (t.matching path' query) := by
  unfold matching
  have hbelow := below_rel t.basePath h
  generalize below t.basePath (Path.decodedSegments path) = rest at hbelow ⊢
  generalize below t.basePath (Path.decodedSegments path') = rest' at hbelow ⊢
  cases hbelow with
  | none => exact .nil
  | some hrest =>
    refine List.rel_flatMap (R := Eq) (List.forall₂_refl t.groups) ?_
    rintro g _ rfl
    exact g.matching_rel hrest query

/-- **The table answers the same** where the segments of the paths are, and the queries are to it. -/
theorem matching_congr (t : TemplateTable P) {path path' : String} {query query' : Query}
    (hpath : Path.decodedSegments path = Path.decodedSegments path')
    (hquery : t.SameQuery query query') : t.matching path query = t.matching path' query' := by
  unfold matching
  rw [hpath]
  cases below t.basePath (Path.decodedSegments path') with
  | none => rfl
  | some rest =>
    refine List.flatMap_congr (fun g hg => g.matching_congr rest (fun a ha => hquery a ?_))
    exact List.mem_flatMap.2 ⟨g, hg, ha⟩

/-! ## What may be written differently -/

section Written

variable (t : TemplateTable P)

/-- Only the segments of a path are read. -/
theorem matching_path {path path' : String}
    (h : Path.decodedSegments path = Path.decodedSegments path') (query : Query) :
    t.matching path query = t.matching path' query :=
  t.matching_congr h (fun _ _ _ _ => rfl)

/-- Only the values of declared keys are read. -/
theorem matching_query (path : String) {query query' : Query} (h : t.SameQuery query query') :
    t.matching path query = t.matching path query' :=
  t.matching_congr rfl h

/-- **A key is declared** if a template has a constraint on it, up to case. -/
def Declares (t : TemplateTable P) (key : String) : Prop :=
  ∃ a ∈ t.templates, ∃ c ∈ a.queries, Ascii.Same key c.1

/-- A parameter is not read if its key is not declared, or has a value already. -/
theorem sameQuery_insert {before : Query} {param : String × String}
    (h : t.Declares param.1 → ∃ p ∈ before, Ascii.Same p.1 param.1) (after : Query) :
    t.SameQuery (before ++ param :: after) (before ++ after) := by
  intro a ha c hc
  refine Query.value?_insert (fun hkey => ?_)
  obtain ⟨p, hp, hsame⟩ := h ⟨a, ha, c, hc, hkey⟩
  exact ⟨p, hp, hsame.trans hkey⟩

end Written

/-- **Routing depends only on what it should.** On paths whose decoded segments are the same up to
case, and queries that give one value at each declared key, the table gives the same registrations in
the same order, with alike bindings; and with equal ones if the decoded segments are equal. So slashes
that separate nothing, the way a path is encoded, parameters that are not declared or repeated, and the
order of parameters make no difference. -/
theorem matching_alike (t : TemplateTable P) :
    (∀ path path' query query',
        List.Forall₂ Ascii.Same (Path.decodedSegments path) (Path.decodedSegments path')
        → t.SameQuery query query'
        → List.Forall₂ TemplateMatch.Alike (t.matching path query) (t.matching path' query'))
      ∧ (∀ path path' query query', Path.decodedSegments path = Path.decodedSegments path'
        → t.SameQuery query query' → t.matching path query = t.matching path' query')
      ∧ (∀ p q query, t.matching (p ++ "//" ++ q) query = t.matching (p ++ "/" ++ q) query
        ∧ t.matching ("/" ++ p) query = t.matching p query
        ∧ t.matching (p ++ "/") query = t.matching p query)
      ∧ (∀ texts written written' query, List.Forall₂ Path.Writes texts written
        → List.Forall₂ Path.Writes texts written'
        → t.matching (String.intercalate "/" written) query
          = t.matching (String.intercalate "/" written') query)
      ∧ (∀ path before param after,
        ¬ t.Declares param.1 ∨ (∃ p ∈ before, Ascii.Same p.1 param.1)
        → t.matching path (before ++ param :: after) = t.matching path (before ++ after))
      ∧ (∀ path query query', query.Perm query'
        → query.Pairwise (fun a b => ¬ Ascii.Same a.1 b.1)
        → t.matching path query = t.matching path query') := by
  refine ⟨fun path path' query query' hpath hquery => ?_,
    fun path path' query query' => t.matching_congr, fun p q query => ⟨?_, ?_, ?_⟩,
    fun texts written written' query h h' => t.matching_path ?_ query,
    fun path before param after h => t.matching_query path (t.sameQuery_insert ?_ after),
    fun path query query' hperm hkeys => t.matching_query path ?_⟩
  · -- first the path is changed, then the query
    rw [← t.matching_query path' hquery]
    exact t.matching_rel hpath query
  · exact t.matching_path (Path.decodedSegments_doubled p q) query
  · exact t.matching_path (Path.decodedSegments_leading p) query
  · exact t.matching_path (Path.decodedSegments_trailing p) query
  · rw [Path.decodedSegments_intercalate h, Path.decodedSegments_intercalate h']
  · rintro ⟨a, ha, c, hc, hkey⟩
    rcases h with h | h
    · exact absurd ⟨a, ha, c, hc, hkey⟩ h
    · exact h
  · exact fun a _ c _ => Query.value?_perm hperm hkeys c.1

/-- A path in another case, with an escape and more slashes, and a query with parameters that are not
declared or repeated. -/
theorem matching_alike_items :
    let t := (((empty false (some "/api") : TemplateTable Nat).run
      [.add "/items/\x7bid\x7d?format=\x7bf\x7d" 1]).result {}).2
    let answer := fun id => (⟨1, "/items/\x7bid\x7d?format=\x7bf\x7d",
      [("id", id), ("f", "xml")]⟩ : TemplateMatch Nat)
    let query : Query := [("format", "xml")]
    let query' : Query := [("page", "2"), ("FORMAT", "xml"), ("format", "json")]
    t.matching "/api/items/aA" query = [answer "aA"]
      ∧ t.matching "//API/Items/%61a/" query' = [answer "aa"]
      ∧ (answer "aA").Alike (answer "aa")
      ∧ t.matching "/api/items/%61A" query' = t.matching "/api/items/aA" query := by
  intro t answer query query'
  obtain ⟨halike, heq, -⟩ := matching_alike t
  have hpath : List.Forall₂ Ascii.Same (Path.decodedSegments "/api/items/aA")
      (Path.decodedSegments "//API/Items/%61a/") := by decide +kernel
  have hdecoded : Path.decodedSegments "/api/items/%61A" = Path.decodedSegments "/api/items/aA" := by
    decide +kernel
  have hquery : t.SameQuery query query' := by
    show ∀ a ∈ t.templates, ∀ c ∈ a.queries, query.value? c.1 = query'.value? c.1
    decide +kernel
  have hquery' : t.SameQuery query' query := fun a ha c hc => (hquery a ha c hc).symm
  have hleft : t.matching "/api/items/aA" query = [answer "aA"] := by decide +kernel
  have hright : t.matching "//API/Items/%61a/" query' = [answer "aa"] := by decide +kernel
  have hboth := halike _ _ _ _ hpath hquery
  rw [hleft, hright] at hboth
  exact ⟨hleft, hright, (List.forall₂_cons.1 hboth).1, heq _ _ _ _ hdecoded hquery'⟩

end TemplateTable

end Switchboard
