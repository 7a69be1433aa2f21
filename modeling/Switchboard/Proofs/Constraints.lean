import Mathlib.Data.List.Nodup
import Mathlib.Data.List.Perm.Basic
import Switchboard.Template.Ambiguity
import Switchboard.Template.Compile
import Switchboard.Template.Match

/-!
# What templates ask of a query

A compiled template is **sound**: no two of its constraints are on one key, letter case aside, and no
fixed text is empty, since an empty value is a constraint of its own. For sound templates the order
and the spelling of the constraints do not matter: a template asks at every key either nothing or
one **demand**, and that is all there is to know about its query.

Two templates ask the same, as `Template.isEquivalent` has it, exactly when they have one shape and
one demand at every key (`Template.isEquivalent_iff`). The definition compares the number of
constraints and looks only from the first template into the second; that this sees all keys of both
is a count of keys without repeats.
-/

namespace Switchboard

/-! ## Letter case -/

namespace Ascii

/-- Raising a character twice raises it once. -/
theorem toUpper_toUpper (c : Char) : c.toUpper.toUpper = c.toUpper := by
  unfold Char.toUpper
  by_cases h : c.val ≥ 'a'.val ∧ c.val ≤ 'z'.val
  · rw [dif_pos h, dif_neg]
    rintro ⟨hraised, -⟩
    have hlow := h.1
    have hhigh := h.2
    have ha : ('a'.val.toNat) = 97 := rfl
    have hz : ('z'.val.toNat) = 122 := rfl
    have hshift : ('A'.val - 'a'.val).toNat = 4294967264 := rfl
    simp only [ge_iff_le, UInt32.le_iff_toNat_le, UInt32.toNat_add] at hraised hlow hhigh
    omega
  · rw [dif_neg h, dif_neg h]

@[simp] theorem upper_upper (s : String) : upper (upper s) = upper s := by
  rw [← String.toList_inj, toList_upper, toList_upper, List.map_map]
  exact List.map_congr_left (fun c _ => toUpper_toUpper c)

/-- A text is the same as its upper-case form. -/
theorem same_upper (s : String) : Same (upper s) s :=
  upper_upper s

/-- Of two texts that are the same, either can be looked for. -/
theorem decide_same_congr {j k : String} (h : Same j k) (s : String) :
    decide (Same s j) = decide (Same s k) :=
  decide_eq_decide.2 ⟨fun e => Eq.trans e h, fun e => Eq.trans e h.symm⟩

end Ascii

/-- The value of a key is the same for every spelling of the key. -/
theorem Query.value?_congr {j k : String} (h : Ascii.Same j k) (query : Query) :
    query.value? j = query.value? k := by
  unfold Query.value?
  rw [funext fun p : String × String => Ascii.decide_same_congr h p.1]

/-- What is found by a key is an entry with this key. -/
theorem Ascii.of_find?_eq_some {β : Type} {l : List (String × β)} {key : String} {p : String × β}
    (h : (l.find? fun q => Same q.1 key) = some p) : p ∈ l ∧ Same p.1 key := by
  have hsame := List.find?_some h
  exact ⟨List.mem_of_find?_eq_some h, of_decide_eq_true hsame⟩

/-- In a list without repeated keys each entry is found by its key. -/
theorem Ascii.find?_of_mem {β : Type} {l : List (String × β)}
    (hl : l.Pairwise fun p q => ¬ Same p.1 q.1) {p : String × β} (hp : p ∈ l) :
    (l.find? fun q => Same q.1 p.1) = some p := by
  induction l with
  | nil => cases hp
  | cons q l ih =>
    obtain ⟨hq, hl⟩ := List.pairwise_cons.1 hl
    rcases List.mem_cons.1 hp with rfl | hp
    · exact List.find?_cons_of_pos (decide_eq_true (same_refl p.1))
    · rw [List.find?_cons, decide_eq_false (hq p hp)]
      exact ih hl hp

/-! ## Reading that succeeds -/

section Reading

variable {ε α β : Type}

/-- What succeeds after another reading succeeds on what that one read. -/
theorem ok_of_bind_eq_ok {x : Except ε α} {f : α → Except ε β} {b : β}
    (h : x >>= f = .ok b) : ∃ a, x = .ok a ∧ f a = .ok b := by
  cases x with
  | error e => cases h
  | ok a => exact ⟨a, rfl, h⟩

/-- One reading after another succeeds exactly when both do, the second on what the first one read. -/
theorem bind_eq_ok_iff {x : Except ε α} {f : α → Except ε β} {b : β} :
    x >>= f = .ok b ↔ ∃ a, x = .ok a ∧ f a = .ok b := by
  refine ⟨ok_of_bind_eq_ok, ?_⟩
  rintro ⟨a, rfl, h⟩
  exact h

/-- What succeeds with its faults reported otherwise succeeds. -/
theorem ok_of_mapError_eq_ok {ε' : Type} {x : Except ε α} {f : ε → ε'} {a : α}
    (h : x.mapError f = .ok a) : x = .ok a := by
  cases x with
  | error e => cases h
  | ok a' => cases h; rfl

/-- What every step of a reading preserves, the reading preserves. -/
theorem foldlM_preserves {f : β → α → Except ε β} {I : β → Prop}
    (hstep : ∀ b a b', I b → f b a = .ok b' → I b') {l : List α} {b b' : β} (hb : I b)
    (h : l.foldlM f b = .ok b') : I b' := by
  induction l generalizing b with
  | nil => cases h; exact hb
  | cons a l ih =>
    rw [List.foldlM_cons] at h
    obtain ⟨next, hnext, hrest⟩ := ok_of_bind_eq_ok h
    exact ih (hstep b a next hb hnext) hrest

end Reading

/-! ## Sound constraints -/

/-- **Sound constraints**: one for each key, and no fixed text that is empty. -/
structure SoundConstraints (queries : List (String × QueryValue)) : Prop where
  /-- No two constraints are on one key. -/
  keys : queries.Pairwise fun p q => ¬ Ascii.Same p.1 q.1
  /-- A fixed text has a character. -/
  filled : ∀ q ∈ queries, q.2 ≠ .literal ""

/-- A value that is read asks for no empty text. -/
theorem QueryValue.ne_literal_empty_of_compile {key value : String} {v : QueryValue}
    (h : QueryValue.compile key value = .ok v) : v ≠ .literal "" := by
  unfold QueryValue.compile at h
  split at h
  · cases h
    simp
  next hvalue =>
    obtain ⟨pieces, -, h⟩ := ok_of_bind_eq_ok h
    unfold QueryValue.ofPieces at h
    split at h
    · split at h
      · cases h
      · cases h
        simp
    · split at h
      · cases h
      · cases h
        exact fun e => hvalue (QueryValue.literal.inj e)

/-- A constraint that is read keeps those before it sound. -/
theorem Template.addConstraint_sound {seen queries : List (String × QueryValue)}
    {field : List Char} (hseen : SoundConstraints seen)
    (h : Template.addConstraint seen field = .ok queries) : SoundConstraints queries := by
  unfold Template.addConstraint at h
  dsimp only at h
  split at h
  · cases h
  split at h
  · cases h
  next hnew =>
  obtain ⟨v, hv, h⟩ := ok_of_bind_eq_ok h
  cases h
  have hfresh : ∀ q ∈ seen, ¬ Ascii.Same q.1
      (String.ofList ((Text.cut? '=' field).getD (field, [])).1) :=
    fun q hq hsame => hnew (List.any_eq_true.2 ⟨q, hq, decide_eq_true hsame⟩)
  refine ⟨List.pairwise_append.2 ⟨hseen.keys, List.pairwise_singleton _ _, ?_⟩, ?_⟩
  · intro p hp q hq
    rw [List.mem_singleton.1 hq]
    exact hfresh p hp
  · intro q hq
    rcases List.mem_append.1 hq with hq | hq
    · exact hseen.filled q hq
    · rw [List.mem_singleton.1 hq]
      exact QueryValue.ne_literal_empty_of_compile hv

namespace Template

/-- **A sound template** has sound constraints. -/
def Sound (t : Template) : Prop :=
  SoundConstraints t.queries

/-- The path of a template text: what stands before its first question mark. -/
def pathPart (text : String) : String :=
  String.ofList ((Text.cut? '?' text.toList).getD (text.toList, [])).1

/-- The query of a template text: what stands after its first question mark. -/
def queryPart (text : String) : String :=
  String.ofList ((Text.cut? '?' text.toList).getD (text.toList, [])).2

/-- **What compiling a template comes to**: its path and its query are read, and no name is bound
twice. -/
theorem compile_eq_ok_iff {text : String} {t : Template} : compile text = .ok t ↔ t.text = text
    ∧ compilePath (pathPart text).toList = .ok t.segments
    ∧ compileQuery (queryPart text).toList = .ok t.queries ∧ firstRepeated? [] t.names = none := by
  unfold pathPart queryPart compile compileParts
  dsimp only
  rw [String.toList_ofList, String.toList_ofList]
  generalize ((Text.cut? '?' text.toList).getD (text.toList, [])).1 = path
  generalize ((Text.cut? '?' text.toList).getD (text.toList, [])).2 = query
  constructor
  · intro h
    obtain ⟨segments, hsegments, h⟩ := ok_of_bind_eq_ok (ok_of_mapError_eq_ok h)
    obtain ⟨queries, hqueries, h⟩ := ok_of_bind_eq_ok h
    split at h
    · cases h
    next hnames =>
      cases h
      exact ⟨rfl, hsegments, hqueries, hnames⟩
  · obtain ⟨text', segments, queries⟩ := t
    rintro ⟨rfl, hsegments, hqueries, hnames⟩
    rw [hsegments]
    dsimp only [bind, Except.bind]
    rw [hqueries]
    dsimp only
    rw [hnames]
    rfl

/-- **Compiled templates are sound**, and keep the text they were written as. -/
theorem compile_sound {text : String} {t : Template} (h : compile text = .ok t) :
    t.Sound ∧ t.text = text := by
  obtain ⟨htext, -, hqueries, -⟩ := compile_eq_ok_iff.1 h
  refine ⟨?_, htext⟩
  exact foldlM_preserves (fun _ _ _ => addConstraint_sound)
    ⟨List.Pairwise.nil, fun q hq => absurd hq List.not_mem_nil⟩ hqueries

/-! ## The constraint on a key -/

/-- The constraint on a key is the same for every spelling of the key. -/
theorem query?_congr {j k : String} (h : Ascii.Same j k) (t : Template) :
    t.query? j = t.query? k := by
  unfold query?
  rw [funext fun q : String × QueryValue => Ascii.decide_same_congr h q.1]

/-- The constraint on a key is one of the constraints. -/
theorem mem_of_query? {t : Template} {key : String} {v : QueryValue}
    (h : t.query? key = some v) : ∃ q ∈ t.queries, Ascii.Same q.1 key ∧ q.2 = v := by
  unfold query? at h
  obtain ⟨q, hfound, hv⟩ := Option.map_eq_some_iff.1 h
  obtain ⟨hq, hkey⟩ := Ascii.of_find?_eq_some hfound
  exact ⟨q, hq, hkey, hv⟩

/-- A sound template asks for no empty text at a key. -/
theorem Sound.filled_of_query? {t : Template} (ht : t.Sound) {key : String} {v : QueryValue}
    (h : t.query? key = some v) : v ≠ .literal "" := by
  obtain ⟨q, hq, -, rfl⟩ := mem_of_query? h
  exact ht.filled q hq

/-- The keys that a template constrains, in upper case. -/
def keys (t : Template) : List String :=
  t.queries.map fun q => Ascii.upper q.1

/-- A sound template constrains each key once. -/
theorem Sound.nodup_keys {t : Template} (ht : t.Sound) : t.keys.Nodup :=
  List.pairwise_map.2 ht.keys

theorem length_keys (t : Template) : t.keys.length = t.queries.length :=
  List.length_map _

/-- **Each constraint of a sound template is found by its key.** -/
theorem Sound.query?_of_mem {t : Template} (ht : t.Sound) {q : String × QueryValue}
    (hq : q ∈ t.queries) : t.query? q.1 = some q.2 :=
  congrArg (Option.map Prod.snd) (Ascii.find?_of_mem ht.keys hq)

/-- The keys are those that have a constraint. -/
theorem mem_keys {t : Template} {key : String} :
    Ascii.upper key ∈ t.keys ↔ (t.query? key).isSome := by
  unfold keys query?
  rw [Option.isSome_map, List.find?_isSome, List.mem_map]
  constructor
  · rintro ⟨q, hq, hsame⟩
    exact ⟨q, hq, decide_eq_true hsame⟩
  · rintro ⟨q, hq, hsame⟩
    exact ⟨q, hq, of_decide_eq_true hsame⟩

end Template

/-! ## Demands -/

namespace QueryValue

/-- **The demand of a constraint**: the constraint without the name it binds. -/
def demand : QueryValue → QueryValue
  | .capture _ => .capture ""
  | v => v

/-- Constraints ask the same when their demands are equal. -/
theorem sameDemand_iff {a b : QueryValue} : a.sameDemand b ↔ a.demand = b.demand := by
  cases a <;> cases b <;> simp [sameDemand, demand]

/-- The text that the value of the key must be, if the constraint fixes it. -/
def fixed? : QueryValue → Option String
  | .literal text => some text
  | .empty => some ""
  | .capture _ => none

theorem isSome_fixed? (v : QueryValue) : v.fixed?.isSome = v.isFixed := by
  cases v <;> rfl

end QueryValue

namespace Template

/-- **The demand of a template at a key.** -/
def demand? (t : Template) (key : String) : Option QueryValue :=
  (t.query? key).map QueryValue.demand

/-- The text that a template fixes at a key. -/
def fixed? (t : Template) (key : String) : Option String :=
  (t.query? key).bind QueryValue.fixed?

theorem isSome_fixed? (t : Template) (key : String) : (t.fixed? key).isSome = t.fixes key := by
  unfold fixed? fixes
  cases t.query? key with
  | none => rfl
  | some v => exact QueryValue.isSome_fixed? v

/-- The demand at a key is there when the key is constrained. -/
theorem isSome_demand? (t : Template) (key : String) :
    (t.demand? key).isSome = (t.query? key).isSome :=
  Option.isSome_map

/-- The demand at a key is the same for every spelling of the key. -/
theorem demand?_congr {j k : String} (h : Ascii.Same j k) (t : Template) :
    t.demand? j = t.demand? k :=
  congrArg (Option.map QueryValue.demand) (query?_congr h t)

/-- A sound template has the demand of each of its constraints. -/
theorem Sound.demand?_of_mem {t : Template} (ht : t.Sound) {q : String × QueryValue}
    (hq : q ∈ t.queries) : t.demand? q.1 = some q.2.demand :=
  congrArg (Option.map QueryValue.demand) (ht.query?_of_mem hq)

/-- A template that meets a demand constrains its key. -/
theorem mem_keys_of_demand? {t : Template} {key : String} {v : QueryValue}
    (h : t.demand? key = some v) : Ascii.upper key ∈ t.keys := by
  rw [mem_keys, ← isSome_demand?, h]
  rfl

/-- **One template meets the demands of another**: each constraint of the other has its demand. -/
def Meets (b a : Template) : Prop :=
  ∀ q ∈ a.queries, b.demand? q.1 = some q.2.demand

theorem Meets.keys_subset {a b : Template} (h : Meets b a) : a.keys ⊆ b.keys := by
  intro key hkey
  obtain ⟨q, hq, rfl⟩ := List.mem_map.1 hkey
  exact mem_keys_of_demand? (h q hq)

/-- Of two templates with as many keys, one that meets the other has no key of its own: keys do not
repeat. -/
theorem Meets.keys_perm {a b : Template} (h : Meets b a) (ha : a.Sound)
    (hlength : a.queries.length = b.queries.length) : a.keys.Perm b.keys := by
  have hkeys : b.keys.length = a.keys.length := by
    rw [length_keys, length_keys, hlength]
  exact (List.subperm_of_subset ha.nodup_keys h.keys_subset).perm_of_length_le (Nat.le_of_eq hkeys)

/-- **A template that meets another with as many keys has the same demands.** -/
theorem Meets.demand?_eq {a b : Template} (h : Meets b a) (ha : a.Sound)
    (hlength : a.queries.length = b.queries.length) (key : String) :
    a.demand? key = b.demand? key := by
  cases hquery : a.query? key with
  | some v =>
    obtain ⟨q, hq, hkey, rfl⟩ := mem_of_query? hquery
    rw [← demand?_congr hkey a, ← demand?_congr hkey b, h q hq, ha.demand?_of_mem hq]
  | none =>
    have hnone : ¬ (b.query? key).isSome := by
      rw [← mem_keys, ← (h.keys_perm ha hlength).mem_iff, mem_keys, hquery]
      exact Bool.false_ne_true
    unfold demand?
    rw [hquery, Option.not_isSome_iff_eq_none.1 hnone]

/-- Sound templates with the same demands meet each other. -/
theorem meets_of_demand? {a b : Template} (ha : a.Sound)
    (h : ∀ key, a.demand? key = b.demand? key) : Meets b a :=
  fun q hq => (h q.1).symm.trans (ha.demand?_of_mem hq)

/-- **Templates ask the same when they have one shape and one demand at every key.** -/
theorem isEquivalent_iff {a b : Template} (ha : a.Sound) (hb : b.Sound) :
    a.isEquivalent b ↔ a.shape = b.shape ∧ ∀ key, a.demand? key = b.demand? key := by
  have hmeets : (∀ q ∈ a.queries, (b.query? q.1).any q.2.sameDemand) ↔ Meets b a := by
    refine forall₂_congr (fun q _ => ?_)
    unfold demand?
    rw [Option.any_eq_true, Option.map_eq_some_iff]
    exact exists_congr (fun w => and_congr_right (fun _ => QueryValue.sameDemand_iff.trans eq_comm))
  unfold isEquivalent
  rw [Bool.and_eq_true, Bool.and_eq_true, beq_iff_eq, beq_iff_eq, List.all_eq_true, hmeets]
  constructor
  · rintro ⟨⟨hshape, hlength⟩, hmeets⟩
    exact ⟨hshape, hmeets.demand?_eq ha hlength⟩
  · rintro ⟨hshape, hdemand⟩
    have hba := meets_of_demand? ha hdemand
    have hab := meets_of_demand? hb (fun key => (hdemand key).symm)
    refine ⟨⟨hshape, ?_⟩, hba⟩
    have hkeys : a.keys.Perm b.keys := (List.perm_ext_iff_of_nodup ha.nodup_keys hb.nodup_keys).2
      (fun _ => ⟨fun hk => hba.keys_subset hk, fun hk => hab.keys_subset hk⟩)
    rw [← length_keys, ← length_keys, hkeys.length_eq]

/-- A sound template asks the same as itself. -/
theorem isEquivalent_refl {a : Template} (ha : a.Sound) : a.isEquivalent a :=
  (isEquivalent_iff ha ha).2 ⟨rfl, fun _ => rfl⟩

theorem isEquivalent_symm {a b : Template} (ha : a.Sound) (hb : b.Sound)
    (h : a.isEquivalent b) : b.isEquivalent a := by
  obtain ⟨hshape, hdemand⟩ := (isEquivalent_iff ha hb).1 h
  exact (isEquivalent_iff hb ha).2 ⟨hshape.symm, fun key => (hdemand key).symm⟩

theorem isEquivalent_trans {a b c : Template} (ha : a.Sound) (hb : b.Sound) (hc : c.Sound)
    (hab : a.isEquivalent b) (hbc : b.isEquivalent c) : a.isEquivalent c := by
  obtain ⟨hshape, hdemand⟩ := (isEquivalent_iff ha hb).1 hab
  obtain ⟨hshape', hdemand'⟩ := (isEquivalent_iff hb hc).1 hbc
  exact (isEquivalent_iff ha hc).2
    ⟨hshape.trans hshape', fun key => (hdemand key).trans (hdemand' key)⟩

/-- Templates without constraints ask the same when their shapes are equal. -/
theorem isEquivalent_of_isPlain {a b : Template} (ha : a.isPlain) (hb : b.isPlain) :
    a.isEquivalent b ↔ a.shape = b.shape := by
  unfold isPlain at ha hb
  unfold isEquivalent
  rw [List.isEmpty_iff.1 ha, List.isEmpty_iff.1 hb]
  simp

/-! ## What a matching query holds -/

/-- **A query that matches has the fixed text at its key.** -/
theorem value?_of_matchesQuery {t : Template} {query : Query} {strict : Bool} {key text : String}
    (h : t.matchesQuery query strict) (hfixed : t.fixed? key = some text) :
    query.value? key = some text := by
  obtain ⟨v, hv, htext⟩ := Option.bind_eq_some_iff.1 hfixed
  obtain ⟨q, hq, hkey, rfl⟩ := mem_of_query? hv
  have hanswer := List.all_eq_true.1 (Bool.and_eq_true_iff.1 h).2 q hq
  unfold answers at hanswer
  rw [← query.value?_congr hkey]
  cases hvalue : q.2 with
  | literal text' =>
    rw [hvalue] at hanswer htext
    cases htext
    exact eq_of_beq hanswer
  | empty =>
    rw [hvalue] at hanswer htext
    cases htext
    exact eq_of_beq hanswer
  | capture name =>
    rw [hvalue] at htext
    cases htext

/-- What matches especially interestingly matches interestingly. -/
theorem matchesQuery_of_strict {t : Template} {query : Query}
    (h : t.matchesQuery query true) : t.matchesQuery query false := by
  obtain ⟨hplain, hall⟩ := Bool.and_eq_true_iff.1 h
  refine Bool.and_eq_true_iff.2 ⟨hplain, List.all_eq_true.2 (fun q hq => ?_)⟩
  have hanswer := List.all_eq_true.1 hall q hq
  unfold answers at hanswer ⊢
  cases hvalue : q.2 with
  | literal text => rw [hvalue] at hanswer; exact hanswer
  | empty => rw [hvalue] at hanswer; exact hanswer
  | capture name => rfl

/-! ## Competing for paths -/

/-- A template competes with itself. -/
theorem sharesShape_refl (a : Template) : a.sharesShape a := by
  unfold sharesShape
  rw [beq_self_eq_true]
  rfl

/-- Competing for paths is mutual. -/
theorem sharesShape_symm {a b : Template} (h : a.sharesShape b) : b.sharesShape a := by
  unfold sharesShape at h ⊢
  rw [Nat.min_comm, BEq.comm, Bool.and_comm b.endsInWildcard]
  dsimp only
  rw [BEq.comm (a := b.looks _)]
  exact h

/-- Templates of one shape compete. -/
theorem sharesShape_of_shape {a b : Template} (h : a.shape = b.shape) : a.sharesShape b := by
  unfold sharesShape
  rw [h, beq_self_eq_true]
  rfl

end Template

end Switchboard
