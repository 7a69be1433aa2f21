import Switchboard.Proofs.Calls
import Switchboard.Proofs.CandidateSet
import Switchboard.Proofs.PrefixIndex

/-!
# The address table is a list

What the address table is meant to do can be said without trees, masks and counters: it is the
list of its **live registrations**, in the order in which they came, and a request is answered by
reading the list from end to end. This module says so and proves that the table does the same.

The reading goes in three steps. The lookup policy names host modes in order, and the first mode
under which any live filter lies at or above the destination is the one that counts
(`serving`). Of the filters that do, those with the longest path stay (`longest`). Of these, the
ones whose headers are all on the request answer (`scan`).

The table and the list go along together (`Keeps`): the set filed at a place holds the live
registrations of that place, in order, and an empty set is never filed. Two filters share a set when
their places are equal, so they may differ in the letter case of a path, or in a host that does
not count, and are still two registrations of one set.
-/

namespace Switchboard

variable {P : Type}

/-- **The place at which a filter is filed.** -/
def AddressFilter.place (f : AddressFilter) : Place :=
  f.address.place f.mode

/-- The place at which a registration is filed. -/
def Registration.place (e : Registration P) : Place :=
  e.filter.place

/-- The number of segments of a registration's path. -/
def Registration.depth (e : Registration P) : Nat :=
  e.filter.address.key.length

/-! ## Reading the list -/

namespace Ledger

/-- **Whether a destination has the authority that a filter asks for**: scheme, host and port where
the host counts, and the scheme alone where it does not. -/
def fits (filed destination : Address) : HostMode → Bool
  | .exact => filed.scheme == destination.scheme && filed.host == destination.host
      && filed.port == destination.port
  | .anyHost => filed.scheme == destination.scheme

/-- **Whether a filter of a host mode lies at or above a destination**: the authority fits, and the
segments of the filter are the first ones of the destination, in upper case. -/
def reaches (mode : HostMode) (destination : Address) (e : Registration P) : Bool :=
  e.filter.mode == mode && fits e.filter.address destination mode
    && e.filter.address.key.isPrefixOf destination.key

/-- The registrations of a host mode at or above a destination. -/
def above (live : List (Registration P)) (destination : Address) (mode : HostMode) :
    List (Registration P) :=
  live.filter (reaches mode destination)

/-- **The registrations with the longest paths.** -/
def longest (es : List (Registration P)) : List (Registration P) :=
  es.filter fun e => es.all fun e' => e'.depth ≤ e.depth

/-- **The registrations that serve a destination**: the longest of those at or above it, under the
first host mode that has any. -/
def serving (lookup : HostLookup) (live : List (Registration P)) (destination : Address) :
    List (Registration P) :=
  match lookup.modes.find? fun mode => !(above live destination mode).isEmpty with
  | some mode => longest (above live destination mode)
  | none => []

/-- **The answers to a request**: the payloads of the registrations that serve its destination and
ask for no header that it lacks. -/
def scan (lookup : HostLookup) (live : List (Registration P)) (r : Request) : List P :=
  ((serving lookup live r.destination).filter fun e =>
    e.filter.required.all fun n => n ∈ r.headers).map Registration.payload

/-! ## Keeping the list -/

/-- Whether a filter is live. -/
def holds (live : List (Registration P)) (f : AddressFilter) : Bool :=
  live.any fun e => e.filter = f

/-- A filter is registered behind the others, unless an equal one is live. -/
def add (live : List (Registration P)) (f : AddressFilter) (payload : P) :
    Reply P × List (Registration P) :=
  if holds live f then (.refused (.duplicateFilter f.display), live)
  else (.done, live ++ [⟨f, payload⟩])

/-- The registration of a filter goes, if it is live. -/
def remove (live : List (Registration P)) (f : AddressFilter) :
    Reply P × List (Registration P) :=
  (.removed (holds live f), live.eraseP fun e => e.filter = f)

/-- **What a call replies and leaves**, as the list has it. Filters of other kinds are refused by
name, and a request leaves the list as it is. -/
def answer (lookup : HostLookup) (live : List (Registration P)) :
    AddressCall P → Reply P × List (Registration P)
  | .add f payload => add live f payload
  | .addFilter (.prefixAddress f) payload => add live f payload
  | .addFilter f _ => (.refused (.wrongKind f.kind "address filter table"), live)
  | .remove f => remove live f
  | .removeFilter (.prefixAddress f) => remove live f
  | .removeFilter f => (.refused (.wrongKind f.kind "address filter table"), live)
  | .clear => (.done, [])
  | .request r => (.found (scan lookup live r), live)
  | .single r =>
    (match scan lookup live r with
      | [] => .one none
      | [p] => .one (some p)
      | ps => .refused (.multipleMatches ps.length), live)

end Ledger

/-! ## The table keeps the list -/

namespace AddressTable

/-- The set filed at a place, empty where there is none. -/
def setAt (t : AddressTable P) (p : Place) : CandidateSet P :=
  (t.index.at? p).getD .empty

/-- **The table keeps the list** under a lookup policy. -/
structure Keeps (t : AddressTable P) (lookup : HostLookup) (live : List (Registration P)) :
    Prop where
  /-- The policy is the one the table was made with. -/
  lookup_eq : t.lookup = lookup
  /-- A set holds the live registrations of its place. -/
  registrations : ∀ p, (t.setAt p).registrations = live.filter fun e => e.place = p
  /-- An empty set is not filed. -/
  nonempty : ∀ p s, t.index.at? p = some s → s.registrations ≠ []
  /-- The masks of every set follow its candidates. -/
  synced : ∀ p, (t.setAt p).Synced
  /-- The number of sets is right. -/
  sized : t.index.Sized
  /-- The number of registrations is right. -/
  size_eq : t.size = live.length

theorem keeps_empty (lookup : HostLookup) : (empty lookup : AddressTable P).Keeps lookup [] := by
  have hat : ∀ p, (empty lookup : AddressTable P).index.at? p = none := PrefixIndex.at?_empty
  refine ⟨rfl, fun p => ?_, fun p s hs => ?_, fun p => ?_, PrefixIndex.sized_empty, rfl⟩
  · rw [setAt, hat]
    rfl
  · rw [hat] at hs
    cases hs
  · rw [setAt, hat]
    exact CandidateSet.synced_empty

/-- The set of a filter is the one at its place. -/
theorem setOf_eq (t : AddressTable P) (f : AddressFilter) : t.setOf f = t.setAt f.place := rfl

/-- **A filter is in its set when it is live**: equal filters have one place. -/
theorem Keeps.contains_eq {t : AddressTable P} {lookup : HostLookup}
    {live : List (Registration P)} (h : t.Keeps lookup live) (f : AddressFilter) :
    (t.setOf f).contains f = Ledger.holds live f := by
  rw [setOf_eq, CandidateSet.contains_eq, h.registrations, List.any_filter, Ledger.holds]
  refine congrArg live.any ?_
  funext e
  by_cases hf : e.filter = f
  · simp [hf, Registration.place]
  · simp [hf]

/-! ### One set changes -/

/-- **Changing one set keeps the list** if the list changes at the place of that set alone. -/
theorem Keeps.change {t t' : AddressTable P} {lookup : HostLookup}
    {live live' : List (Registration P)} (h : t.Keeps lookup live) (p : Place)
    {s : CandidateSet P} (hlookup : t'.lookup = t.lookup) (hsize : t'.size = live'.length)
    (hsized : t'.index.Sized) (hsynced : s.Synced)
    (hat : ∀ q, t'.index.at? q
      = if q = p then (if s.registrations = [] then none else some s) else t.index.at? q)
    (hself : s.registrations = live'.filter fun e => e.place = p)
    (hother : ∀ q, q ≠ p
      → (live'.filter fun e => e.place = q) = live.filter fun e => e.place = q) :
    t'.Keeps lookup live' := by
  refine ⟨hlookup.trans h.lookup_eq, fun q => ?_, fun q s' hs' => ?_, fun q => ?_, hsized, hsize⟩
  · by_cases hq : q = p
    · rw [setAt, hat, if_pos hq, hq, ← hself]
      by_cases hs : s.registrations = []
      · rw [if_pos hs, hs]
        rfl
      · rw [if_neg hs]
        rfl
    · rw [setAt, hat, if_neg hq, hother q hq]
      exact h.registrations q
  · by_cases hq : q = p
    · rw [hat, if_pos hq] at hs'
      by_cases hs : s.registrations = []
      · rw [if_pos hs] at hs'
        cases hs'
      · rw [if_neg hs, Option.some.injEq] at hs'
        rw [← hs']
        exact hs
    · rw [hat, if_neg hq] at hs'
      exact h.nonempty q s' hs'
  · by_cases hq : q = p
    · rw [setAt, hat, if_pos hq]
      by_cases hs : s.registrations = []
      · rw [if_pos hs]
        exact CandidateSet.synced_empty
      · rw [if_neg hs]
        exact hsynced
    · rw [setAt, hat, if_neg hq]
      exact h.synced q

/-- **The table and the list go along**: one reply, and the table that is left keeps the list that
is left. -/
def Agrees (lookup : HostLookup) (x : Reply P × AddressTable P)
    (y : Reply P × List (Registration P)) : Prop :=
  x.1 = y.1 ∧ x.2.Keeps lookup y.2

/-- **Registering goes along.** -/
theorem Keeps.add {t : AddressTable P} {lookup : HostLookup} {live : List (Registration P)}
    (h : t.Keeps lookup live) (f : AddressFilter) (payload : P) :
    Agrees lookup (Reply.ofAdd t (t.add f payload)) (Ledger.add live f payload) := by
  unfold AddressTable.add Ledger.add
  rw [h.contains_eq]
  by_cases hlive : Ledger.holds live f = true
  · rw [if_pos hlive, if_pos hlive]
    exact ⟨rfl, h⟩
  · rw [if_neg hlive, if_neg hlive]
    have hkeeps : ({ t with
        index := t.index.file f.address f.mode ((t.setOf f).add f payload)
        size := t.size + 1 } : AddressTable P).Keeps lookup (live ++ [⟨f, payload⟩]) := by
      refine h.change f.place rfl ?_ (h.sized.file _ _ _) ((h.synced f.place).add f payload)
        (fun q => ?_) ?_ (fun q hq => ?_)
      · rw [List.length_append, h.size_eq]
        rfl
      · rw [CandidateSet.registrations_add,
          if_neg (List.append_ne_nil_of_right_ne_nil _ (List.cons_ne_nil _ _))]
        exact PrefixIndex.at?_file t.index f.address f.mode _ q
      · rw [CandidateSet.registrations_add, h.registrations, List.filter_append]
        simp [Registration.place]
      · rw [List.filter_append, List.filter_cons_of_neg (fun hc => hq (of_decide_eq_true hc).symm),
          List.filter_nil, List.append_nil]
    exact ⟨rfl, hkeeps⟩

/-- What is erased at one place is erased from the registrations of that place. -/
theorem filter_eraseP {live : List (Registration P)} (f : AddressFilter) (q : Place) :
    (live.eraseP fun e => e.filter = f).filter (fun e => e.place = q)
      = if q = f.place
        then (live.filter fun e => e.place = q).eraseP fun e => e.filter = f
        else live.filter fun e => e.place = q := by
  have hplace : ∀ e : Registration P, decide (e.filter = f) = true → e.place = f.place :=
    fun e he => congrArg AddressFilter.place (of_decide_eq_true he)
  rw [filter_eraseP_comm (fun a _ b _ ha hb => (hplace a ha).trans (hplace b hb).symm)]
  split
  next => rfl
  next hq =>
    refine List.eraseP_of_forall_not (fun e he hf => hq ?_)
    rw [← hplace e hf]
    exact (of_decide_eq_true (List.mem_filter.1 he).2).symm

/-- **Removing goes along.** The last registration of a place takes the set with it. -/
theorem Keeps.remove {t : AddressTable P} {lookup : HostLookup} {live : List (Registration P)}
    (h : t.Keeps lookup live) (f : AddressFilter) :
    Agrees lookup (Reply.ofRemove t (.ok (t.remove? f))) (Ledger.remove live f) := by
  unfold AddressTable.remove? Ledger.remove
  have hrest := CandidateSet.map_registrations_remove? (t.setOf f) f
  rw [h.contains_eq] at hrest
  cases hlive : Ledger.holds live f with
  | false =>
    rw [hlive, if_neg Bool.false_ne_true, Option.map_eq_none_iff] at hrest
    have hsame : (live.eraseP fun e => e.filter = f) = live :=
      List.eraseP_of_forall_not (List.any_eq_false.mp hlive)
    rw [hrest, hsame]
    exact ⟨rfl, h⟩
  | true =>
    rw [hlive, if_pos rfl] at hrest
    obtain ⟨rest, hrest, hregistrations⟩ := Option.map_eq_some_iff.mp hrest
    have hkeeps : ({ t with
        index := t.indexWithout f rest
        size := t.size - 1 } : AddressTable P).Keeps lookup
          (live.eraseP fun e => e.filter = f) := by
      refine h.change f.place rfl ?_ ?_ ((h.synced f.place).remove? hrest) (fun q => ?_) ?_
        (fun q hq => ?_)
      · show t.size - 1 = _
        rw [List.length_eraseP, if_pos (show live.any _ = true from hlive), h.size_eq]
      · show (t.indexWithout f rest).Sized
        unfold indexWithout
        split
        · exact h.sized.clear _ _
        · exact h.sized.file _ _ _
      · show (t.indexWithout f rest).at? q = _
        unfold indexWithout
        rw [CandidateSet.isEmpty_eq]
        by_cases hempty : rest.registrations = []
        · rw [if_pos (List.isEmpty_iff.mpr hempty), if_pos hempty]
          exact PrefixIndex.at?_clear t.index f.address f.mode q
        · rw [if_neg (fun hc => hempty (List.isEmpty_iff.mp hc)), if_neg hempty]
          exact PrefixIndex.at?_file t.index f.address f.mode _ q
      · rw [hregistrations, setOf_eq, h.registrations, filter_eraseP, if_pos rfl]
      · rw [filter_eraseP, if_neg hq]
    rw [hrest]
    exact ⟨rfl, hkeeps⟩

/-! ### The answers -/

/-- **Fitting is equality of what the mode looks at** of the two authorities. -/
theorem fits_iff (filed destination : Address) (mode : HostMode) :
    Ledger.fits filed destination mode = true
      ↔ filed.authority mode = destination.authority mode := by
  cases mode with
  | exact => simp [Ledger.fits, Address.authority, and_assoc]
  | anyHost => simp [Ledger.fits, Address.authority]

/-- **A filter reaches a destination** from a place that has the destination's authority and a start
of its segments. -/
theorem reaches_iff (mode : HostMode) (destination : Address) (e : Registration P) :
    Ledger.reaches mode destination e = true
      ↔ ∃ k, k <+: destination.key ∧ e.place = ⟨mode, destination.authority mode, k⟩ := by
  unfold Ledger.reaches
  rw [Bool.and_eq_true, Bool.and_eq_true, beq_iff_eq, fits_iff, List.isPrefixOf_iff_prefix]
  constructor
  · rintro ⟨⟨hmode, hfits⟩, hstart⟩
    refine ⟨_, hstart, ?_⟩
    show Place.mk e.filter.mode (e.filter.address.authority e.filter.mode) _ = _
    rw [hmode, hfits]
  · rintro ⟨k, hk, hplace⟩
    have hmode : e.filter.mode = mode := congrArg Place.mode hplace
    have hauthority : e.filter.address.authority e.filter.mode = destination.authority mode :=
      congrArg Place.authority hplace
    have hkey : e.filter.address.key = k := congrArg Place.key hplace
    rw [hmode] at hauthority
    exact ⟨⟨hmode, hauthority⟩, hkey ▸ hk⟩

/-- **A set is filed where a live registration has its place.** -/
theorem Keeps.isSome_at? {t : AddressTable P} {lookup : HostLookup}
    {live : List (Registration P)} (h : t.Keeps lookup live) (p : Place) :
    (t.index.at? p).isSome = true ↔ ∃ e ∈ live, e.place = p := by
  have hreg := h.registrations p
  unfold setAt at hreg
  cases hs : t.index.at? p with
  | none =>
    rw [hs] at hreg
    refine iff_of_false Bool.false_ne_true ?_
    rintro ⟨e, he, hplace⟩
    exact List.filter_eq_nil_iff.mp hreg.symm e he (decide_eq_true hplace)
  | some s =>
    rw [hs, Option.getD_some] at hreg
    refine iff_of_true rfl ?_
    obtain ⟨e, he⟩ := List.exists_mem_of_ne_nil _ (h.nonempty p s hs)
    rw [hreg, List.mem_filter] at he
    exact ⟨e, he.1, of_decide_eq_true he.2⟩

/-- The registrations at or above a destination are those filed at its places. -/
theorem mem_above {live : List (Registration P)} {destination : Address} {mode : HostMode}
    {e : Registration P} : e ∈ Ledger.above live destination mode
      ↔ e ∈ live ∧ ∃ k, k <+: destination.key
        ∧ e.place = ⟨mode, destination.authority mode, k⟩ := by
  rw [Ledger.above, List.mem_filter, reaches_iff]

/-- The place of a registration has its depth. -/
theorem depth_eq {e : Registration P} {mode : HostMode} {authority : Authority}
    {k : List String} (h : e.place = ⟨mode, authority, k⟩) : e.depth = k.length :=
  congrArg (fun p => p.key.length) h

/-- **The longest registrations at or above a destination are those of the longest place** that holds
a set. -/
theorem Keeps.longest_above {t : AddressTable P} {lookup : HostLookup}
    {live : List (Registration P)} (h : t.Keeps lookup live) {destination : Address}
    {mode : HostMode} {k : List String} {s : CandidateSet P}
    (hk : PathTree.IsLongest (fun k => t.index.at? ⟨mode, destination.authority mode, k⟩)
      destination.key k s) :
    Ledger.longest (Ledger.above live destination mode)
      = live.filter fun e => e.place = ⟨mode, destination.authority mode, k⟩ := by
  obtain ⟨e₀, he₀, hplace₀⟩ := (h.isSome_at? _).mp (Option.isSome_iff_exists.mpr ⟨s, hk.held⟩)
  have hmem₀ : e₀ ∈ Ledger.above live destination mode := mem_above.mpr ⟨he₀, k, hk.start, hplace₀⟩
  rw [Ledger.longest, Ledger.above, List.filter_filter]
  refine List.filter_congr (fun e he => ?_)
  rw [Bool.eq_iff_iff, Bool.and_eq_true, decide_eq_true_eq, List.all_eq_true, reaches_iff]
  constructor
  -- as long as `k`, and a start of the same list: the two starts are one
  · rintro ⟨hall, k', hk', hplace'⟩
    have hle := hall e₀ hmem₀
    rw [decide_eq_true_eq, depth_eq hplace₀, depth_eq hplace'] at hle
    have hge := hk.longest k' hk' ((h.isSome_at? _).mpr ⟨e, he, hplace'⟩)
    have hsame : k = k' :=
      (List.prefix_of_prefix_length_le hk.start hk' hle).eq_of_length (Nat.le_antisymm hle hge)
    rw [hplace', hsame]
  · intro hplace
    refine ⟨fun e' he' => ?_, k, hk.start, hplace⟩
    obtain ⟨he', k', hk', hplace'⟩ := mem_above.mp he'
    rw [decide_eq_true_eq, depth_eq hplace, depth_eq hplace']
    exact hk.longest k' hk' ((h.isSome_at? _).mpr ⟨e', he', hplace'⟩)

/-- **A look-up finds the longest registrations at or above the destination**, and nothing if there
are none. -/
theorem Keeps.registrations_lookup? {t : AddressTable P} {lookup : HostLookup}
    {live : List (Registration P)} (h : t.Keeps lookup live) (destination : Address)
    (mode : HostMode) :
    (t.index.lookup? destination mode).map CandidateSet.registrations
      = if (Ledger.above live destination mode).isEmpty then none
        else some (Ledger.longest (Ledger.above live destination mode)) := by
  cases hfound : t.index.lookup? destination mode with
  | none =>
    have hnone : Ledger.above live destination mode = [] := by
      refine List.filter_eq_nil_iff.mpr (fun e he hreach => ?_)
      obtain ⟨k, hk, hplace⟩ := (reaches_iff mode destination e).mp hreach
      have hsome := (h.isSome_at? _).mpr ⟨e, he, hplace⟩
      rw [PrefixIndex.at?_eq_none_of_lookup? hfound hk] at hsome
      cases hsome
    rw [hnone]
    rfl
  | some s =>
    obtain ⟨k, hk⟩ := PrefixIndex.isLongest_of_lookup? hfound
    have hheld : t.index.at? ⟨mode, destination.authority mode, k⟩ = some s := hk.held
    obtain ⟨e, he, hplace⟩ := (h.isSome_at? _).mp (Option.isSome_iff_exists.mpr ⟨s, hheld⟩)
    have habove : e ∈ Ledger.above live destination mode := mem_above.mpr ⟨he, k, hk.start, hplace⟩
    rw [if_neg (fun hempty => List.ne_nil_of_mem habove (List.isEmpty_iff.mp hempty)),
      h.longest_above hk, ← h.registrations, setAt, hheld]
    rfl

/-- **The set that serves a destination holds the registrations that serve it.** -/
theorem Keeps.registrations_setFor? {t : AddressTable P} {lookup : HostLookup}
    {live : List (Registration P)} (h : t.Keeps lookup live) (destination : Address) :
    ((t.setFor? destination).map CandidateSet.registrations).getD []
      = Ledger.serving lookup live destination := by
  unfold setFor? Ledger.serving
  rw [h.lookup_eq]
  induction lookup.modes with
  | nil => rfl
  | cons mode modes ih =>
    have hmode := h.registrations_lookup? destination mode
    rw [List.findSome?_cons, List.find?_cons]
    cases hempty : (Ledger.above live destination mode).isEmpty with
    | true =>
      rw [hempty, if_pos rfl, Option.map_eq_none_iff] at hmode
      rw [hmode]
      exact ih
    | false =>
      rw [hempty, if_neg Bool.false_ne_true] at hmode
      obtain ⟨s, hs, hregistrations⟩ := Option.map_eq_some_iff.mp hmode
      rw [hs]
      exact hregistrations

/-- A set that serves a destination is one of those that are filed. -/
theorem Keeps.synced_setFor? {t : AddressTable P} {lookup : HostLookup}
    {live : List (Registration P)} (h : t.Keeps lookup live) {destination : Address}
    {s : CandidateSet P} (hs : t.setFor? destination = some s) : s.Synced := by
  obtain ⟨mode, -, hfound⟩ := List.exists_of_findSome?_eq_some hs
  obtain ⟨k, hk⟩ := PrefixIndex.isLongest_of_lookup? hfound
  have hsynced := h.synced ⟨mode, destination.authority mode, k⟩
  rw [setAt, hk.held] at hsynced
  exact hsynced

/-- **The table answers what the scan answers.** -/
theorem Keeps.matching_eq {t : AddressTable P} {lookup : HostLookup}
    {live : List (Registration P)} (h : t.Keeps lookup live) (r : Request) :
    t.matching r = Ledger.scan lookup live r := by
  have hserving := h.registrations_setFor? r.destination
  unfold matching Ledger.scan
  cases hs : t.setFor? r.destination with
  | none =>
    rw [hs] at hserving
    rw [← hserving]
    rfl
  | some s =>
    rw [hs] at hserving
    rw [← hserving]
    exact (h.synced_setFor? hs).payloads_matching r.headers

/-! ## Runs -/

/-- **A call goes along.** -/
theorem Keeps.answer {t : AddressTable P} {lookup : HostLookup} {live : List (Registration P)}
    (h : t.Keeps lookup live) (c : AddressCall P) :
    Agrees lookup (t.answer c) (Ledger.answer lookup live c) := by
  cases c with
  | add f payload => exact h.add f payload
  | addFilter f payload =>
    cases f with
    | prefixAddress f => exact h.add f payload
    | exactAddress f => exact ⟨rfl, h⟩
    | template text => exact ⟨rfl, h⟩
  | remove f => exact h.remove f
  | removeFilter f =>
    cases f with
    | prefixAddress f => exact h.remove f
    | exactAddress f => exact ⟨rfl, h⟩
    | template text => exact ⟨rfl, h⟩
  | clear =>
    refine ⟨rfl, ?_⟩
    show (empty t.lookup : AddressTable P).Keeps lookup []
    rw [h.lookup_eq]
    exact keeps_empty lookup
  | request r => exact ⟨congrArg Reply.found (h.matching_eq r), h⟩
  | single r =>
    refine ⟨?_, h⟩
    show Reply.ofSingle (Switchboard.single (t.matching r)) = _
    rw [h.matching_eq]
    show _ = match Ledger.scan lookup live r with
      | [] => Reply.one none
      | [p] => Reply.one (some p)
      | ps => Reply.refused (.multipleMatches ps.length)
    match Ledger.scan lookup live r with
    | [] => rfl
    | [_] => rfl
    | _ :: _ :: _ => rfl

/-- **The number of sets is the number of places that live registrations have.** -/
theorem Keeps.setCount_eq {t : AddressTable P} {lookup : HostLookup}
    {live : List (Registration P)} (h : t.Keeps lookup live) :
    t.setCount = (distinct (live.map Registration.place)).length := by
  obtain ⟨places, hnodup, hmem, hsize⟩ := h.sized
  refine hsize.trans (List.Perm.length_eq ?_)
  refine (List.perm_ext_iff_of_nodup hnodup (nodup_distinct _)).mpr (fun p => ?_)
  rw [hmem, h.isSome_at?, mem_distinct, List.mem_map]

/-- **Address dispatch is a scan of the live registrations.** Whatever calls are made on an empty
table, it replies as the list of live registrations does, call by call; after them, every request
is answered by scanning that list, and the two counters are the number of its registrations and
the number of their places. -/
theorem run_eq_scan (lookup : HostLookup) (calls : List (AddressCall P)) (m : Metrics) :
    let served := ((empty lookup : AddressTable P).run calls).result m
    let kept := runAll (Ledger.answer lookup) ([] : List (Registration P)) calls
    served.1 = kept.1
      ∧ (∀ r, served.2.matching r = Ledger.scan lookup kept.2 r)
      ∧ served.2.size = kept.2.length
      ∧ served.2.setCount = (distinct (kept.2.map Registration.place)).length := by
  obtain ⟨hreplies, hkeeps⟩ := runAll_agrees
    (fun (t : AddressTable P) live c (h : t.Keeps lookup live) => h.answer c)
    (keeps_empty lookup) calls
  rw [result_run]
  exact ⟨hreplies, hkeeps.matching_eq, hkeeps.size_eq, hkeeps.setCount_eq⟩

end AddressTable

end Switchboard
