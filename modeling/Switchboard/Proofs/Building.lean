import Switchboard.Proofs.AddressScan
import Switchboard.Proofs.Reload
import Switchboard.Proofs.Segments
import Switchboard.Proofs.TemplateRegistry

/-!
# Which checked configurations build

A configuration is read twice before there is a dispatcher. The check reads every address and every
header name and reports all problems. Building reads them again, entry by entry, and stops at the first
entry that a table refuses. The two readings must agree: whoever was told that a configuration is sound
should not be told afterwards that it is invalid.

They do, since both use the same readers, and what the check passes has a filter for each endpoint
(`Config.exists_filter_of_checked`). What is left to building is what the check does not look at: whether
filters repeat, and whether templates compile and can be told apart. So an endpoint of a checked
configuration can only be refused as a duplicate, and an operation only for its format or for a conflict.

Which entry is reported is not settled by that. Building carries the tables along, so an entry is
refused by the table that the entries before it have filled; it is the first one refused, in the order
of the configuration and the endpoints first (`Config.RefusesEndpoint`, `Config.RefusesOperation`). An
operation is reported only when all endpoints were taken. The address table has all that matters for
this in the list of its filters (`AddressTable.Keeps`), so all endpoints are taken exactly if no two of
them ask for one filter (`Dispatcher.register_all_iff`).
-/

namespace Switchboard

/-! ## Readings that fail -/

section Failing

variable {ε α β : Type}

/-- One reading after another fails when the first does, or the second on what the first one read. -/
theorem bind_eq_error_iff {x : Except ε α} {f : α → Except ε β} {e : ε} :
    x >>= f = .error e ↔ x = .error e ∨ ∃ a, x = .ok a ∧ f a = .error e := by
  cases x with
  | error e' =>
    refine ⟨fun h => Or.inl (congrArg _ (Except.error.inj h)), ?_⟩
    rintro (h | ⟨a, h, -⟩)
    · exact congrArg _ (Except.error.inj h)
    · cases h
  | ok a =>
    refine ⟨fun h => Or.inr ⟨a, rfl, h⟩, ?_⟩
    rintro (h | ⟨a', h, hf⟩)
    · cases h
    · rw [Except.ok.inj h]
      exact hf

theorem mapError_eq_error_iff {ε' : Type} {x : Except ε α} {g : ε → ε'} {e' : ε'} :
    x.mapError g = .error e' ↔ ∃ e, x = .error e ∧ g e = e' := by
  cases x with
  | error e =>
    constructor
    · exact fun h => ⟨e, rfl, Except.error.inj h⟩
    · rintro ⟨_, ⟨⟩, rfl⟩
      rfl
  | ok a => exact iff_of_false (nomatch ·) (fun ⟨_, h, _⟩ => nomatch h)

/-- **Steps that are taken one after another fail at the first one that fails**, on what those before it
have left. -/
theorem foldlM_eq_error_iff {f : β → α → Except ε β} {l : List α} {b : β} {e : ε} :
    l.foldlM f b = .error e ↔ ∃ before a after b', l = before ++ a :: after
      ∧ before.foldlM f b = .ok b' ∧ f b' a = .error e := by
  induction l generalizing b with
  | nil =>
    refine iff_of_false (nomatch ·) ?_
    rintro ⟨before, a, after, b', hsplit, -⟩
    exact List.append_ne_nil_of_right_ne_nil before (List.cons_ne_nil a after) hsplit.symm
  | cons x l ih =>
    rw [List.foldlM_cons, bind_eq_error_iff]
    constructor
    · rintro (hx | ⟨b₁, hx, h⟩)
      · exact ⟨[], x, l, b, rfl, rfl, hx⟩
      · obtain ⟨before, a, after, b', rfl, hbefore, ha⟩ := ih.1 h
        refine ⟨x :: before, a, after, b', rfl, ?_, ha⟩
        rw [List.foldlM_cons, hx]
        exact hbefore
    · rintro ⟨before, a, after, b', hsplit, hbefore, ha⟩
      cases before with
      | nil =>
        obtain ⟨rfl, rfl⟩ := List.cons.inj hsplit
        rw [Except.ok.inj hbefore]
        exact Or.inl ha
      | cons y before =>
        obtain ⟨rfl, rfl⟩ := List.cons.inj hsplit
        obtain ⟨b₁, hx, hbefore⟩ := ok_of_bind_eq_ok hbefore
        exact Or.inr ⟨b₁, hx, ih.2 ⟨before, a, after, b', rfl, hbefore, ha⟩⟩

/-- What grows by one with every step grows by the number of steps. -/
theorem size_foldlM {f : β → α → Except ε β} (size : β → Nat)
    (hstep : ∀ b a b', f b a = .ok b' → size b' = size b + 1) {l : List α} {b b' : β}
    (h : l.foldlM f b = .ok b') : size b' = size b + l.length := by
  induction l generalizing b with
  | nil =>
    rw [Except.ok.inj h]
    rfl
  | cons a l ih =>
    obtain ⟨next, hnext, hrest⟩ := ok_of_bind_eq_ok h
    rw [ih hrest, hstep b a next hnext, List.length_cons]
    omega

end Failing

/-! ## What a check settles -/

/-- Where every element has a partner, the list has partners one by one. -/
theorem exists_forall₂ {α β : Type} {R : α → β → Prop} {l : List α} (h : ∀ a ∈ l, ∃ b, R a b) :
    ∃ bs, List.Forall₂ R l bs := by
  induction l with
  | nil => exact ⟨[], .nil⟩
  | cons a l ih =>
    rw [List.forall_mem_cons] at h
    obtain ⟨b, hb⟩ := h.1
    obtain ⟨bs, hbs⟩ := ih h.2
    exact ⟨b :: bs, .cons hb hbs⟩

/-- **The filter that an endpoint asks for**: its address as it is read, its host mode, and the names of
its headers, of which repeats count once. -/
def EndpointConfig.AsksFor (e : EndpointConfig) (f : AddressFilter) : Prop :=
  ∃ address headers, Address.parse e.address = .ok address
    ∧ List.Forall₂ (fun text name => QualifiedName.parse text = .ok name) e.requiredHeaders headers
    ∧ f = .of address e.includeHost headers

namespace Config

theorem exists_address_of_problems {field address : String} (h : addressProblems field address = []) :
    ∃ a, Address.parse address = .ok a := by
  unfold addressProblems at h
  split at h
  next a ha => exact ⟨a, ha⟩
  next => cases h

theorem exists_names_of_problems {field : String} {j : Nat} {headers : List String}
    (h : headerProblems field j headers = []) :
    ∀ text ∈ headers, ∃ name, QualifiedName.parse text = .ok name := by
  induction headers generalizing j with
  | nil => exact fun _ htext => absurd htext List.not_mem_nil
  | cons header headers ih =>
    obtain ⟨hfirst, hrest⟩ := List.append_eq_nil_iff.1 h
    refine List.forall_mem_cons.2 ⟨?_, ih hrest⟩
    split at hfirst
    next name hname => exact ⟨name, hname⟩
    next => cases hfirst

/-- An endpoint without problems asks for a filter, whatever its number and the names before it. -/
theorem exists_filter_of_problems {i : Nat} {earlier : List String} {es : List EndpointConfig}
    (h : endpointProblems i earlier es = []) : ∀ e ∈ es, ∃ f, e.AsksFor f := by
  induction es generalizing i earlier with
  | nil => exact fun _ he => absurd he List.not_mem_nil
  | cons e es ih =>
    obtain ⟨hone, hrest⟩ := List.append_eq_nil_iff.1 h
    obtain ⟨hone, hheaders⟩ := List.append_eq_nil_iff.1 hone
    obtain ⟨-, haddress⟩ := List.append_eq_nil_iff.1 hone
    obtain ⟨address, haddress⟩ := exists_address_of_problems haddress
    obtain ⟨headers, hheaders⟩ := exists_forall₂ (exists_names_of_problems hheaders)
    exact List.forall_mem_cons.2 ⟨⟨_, address, headers, haddress, hheaders, rfl⟩, ih hrest⟩

/-- **What is checked can be read again**: every endpoint asks for a filter. -/
theorem exists_filter_of_checked {c : Config} (h : c.problems = []) :
    ∀ e ∈ c.endpoints, ∃ f, e.AsksFor f := by
  obtain ⟨h, -⟩ := List.append_eq_nil_iff.1 h
  obtain ⟨-, h⟩ := List.append_eq_nil_iff.1 h
  exact exists_filter_of_problems h

end Config

/-! ## What the tables refuse -/

namespace AddressTable

variable {P : Type} {t : AddressTable P} {f : AddressFilter} {payload : P}

/-- **The address table refuses duplicates** and nothing else. -/
theorem eq_duplicate_of_add {reason : DispatchError} (h : t.add f payload = .error reason) :
    reason = .duplicateFilter f.display := by
  unfold add at h
  split at h
  · exact (Except.error.inj h).symm
  · cases h

/-- One more filter is registered than before. -/
theorem size_add {t' : AddressTable P} (h : t.add f payload = .ok t') : t'.size = t.size + 1 := by
  unfold add at h
  split at h
  · cases h
  · rw [← Except.ok.inj h]

end AddressTable

namespace TemplateTable

variable {P : Type}

/-- One more template is registered than before. -/
theorem size_add {t t' : TemplateTable P} {text : String} {payload : P}
    (h : t.add text payload = .ok t') : t'.size = t.size + 1 := by
  obtain ⟨a, -, -, rfl⟩ := add_eq_ok_iff.1 h
  exact (TemplateGroup.templates_place ⟨a, payload⟩ t.groups).length_eq

end TemplateTable

namespace Dispatcher

/-! ## Building, not counting -/

/-- Registers an operation, without counting. -/
def enroll (t : TemplateTable String) (o : OperationConfig) :
    Except ConfigError (TemplateTable String) :=
  (t.add o.template o.name).mapError (.refused o.name)

/-- Builds a dispatcher, without counting. -/
def build (c : Config) : Except ConfigError Dispatcher := do
  let addresses ← c.endpoints.foldlM register (.empty c.matching.hostLookup)
  let templates ← c.operations.foldlM enroll
    (.empty c.matching.allowDuplicates c.matching.basePath)
  return { addresses, templates }

/-- **What a building step comes to**, whatever was counted before. -/
def ComesTo {α : Type} (x : Building α) (y : Except ConfigError α) : Prop :=
  ∀ m, (x.run.run m).1 = y

theorem ComesTo.bind {α β : Type} {x : Building α} {y : Except ConfigError α} {f : α → Building β}
    {g : α → Except ConfigError β} (hx : ComesTo x y) (hf : ∀ a, ComesTo (f a) (g a)) :
    ComesTo (x >>= f) (y >>= g) := by
  intro m
  rw [run_bind, ← hx m]
  rcases x.run.run m with ⟨e | a, m'⟩
  · rfl
  · exact hf a m'

theorem ComesTo.foldlM {α β : Type} {f : β → α → Building β} {g : β → α → Except ConfigError β}
    (h : ∀ b a, ComesTo (f b a) (g b a)) (l : List α) (b : β) :
    ComesTo (l.foldlM f b) (l.foldlM g b) := by
  induction l generalizing b with
  | nil => exact fun _ => rfl
  | cons a l ih =>
    rw [List.foldlM_cons, List.foldlM_cons]
    exact (h b a).bind ih

/-- **Counting does not change what building comes to.** -/
theorem comesTo_ofConfig (c : Config) : ComesTo (ofConfig c) (build c) := by
  have hendpoint : ∀ t e, ComesTo (addEndpoint t e) (register t e) := by
    intro t e m
    rw [run_addEndpoint]
  have hoperation : ∀ t o, ComesTo (addOperation t o) (enroll t o) := by
    intro t o m
    have hadd : ((t.addM o.template o.name).run m).1 = t.add o.template o.name :=
      t.result_addM o.template o.name m
    rw [addOperation, run_mk_map, hadd, enroll]
  exact (ComesTo.foldlM hendpoint _ _).bind fun _ =>
    (ComesTo.foldlM hoperation _ _).bind fun _ _ => rfl

/-- Building fails with the endpoints, or, when these are taken, with the operations. -/
theorem build_eq_error_iff {c : Config} {err : ConfigError} : build c = .error err
    ↔ c.endpoints.foldlM register (.empty c.matching.hostLookup) = .error err
      ∨ (∃ s, c.endpoints.foldlM register (.empty c.matching.hostLookup) = .ok s)
        ∧ c.operations.foldlM enroll (.empty c.matching.allowDuplicates c.matching.basePath)
          = .error err := by
  unfold build
  rw [bind_eq_error_iff]
  refine or_congr_right ⟨?_, ?_⟩
  · rintro ⟨s, hs, h⟩
    rcases bind_eq_error_iff.1 h with h | ⟨_, -, hnone⟩
    · exact ⟨⟨s, hs⟩, h⟩
    · cases hnone
  · rintro ⟨⟨s, hs⟩, h⟩
    exact ⟨s, hs, bind_eq_error_iff.2 (Or.inl h)⟩

/-- Building succeeds with both tables. -/
theorem build_eq_ok_iff {c : Config} {d : Dispatcher} : build c = .ok d
    ↔ c.endpoints.foldlM register (.empty c.matching.hostLookup) = .ok d.addresses
      ∧ c.operations.foldlM enroll (.empty c.matching.allowDuplicates c.matching.basePath)
        = .ok d.templates := by
  constructor
  · intro h
    obtain ⟨addresses, haddresses, h⟩ := ok_of_bind_eq_ok h
    obtain ⟨templates, htemplates, h⟩ := ok_of_bind_eq_ok h
    cases h
    exact ⟨haddresses, htemplates⟩
  · rintro ⟨haddresses, htemplates⟩
    exact bind_eq_ok_iff.2 ⟨_, haddresses, bind_eq_ok_iff.2 ⟨_, htemplates, rfl⟩⟩

/-! ## Endpoints -/

/-- An endpoint that asks for a filter is read as this filter. -/
theorem filterOf_of_asksFor {e : EndpointConfig} {f : AddressFilter} (h : e.AsksFor f) :
    filterOf e = .ok f := by
  obtain ⟨address, headers, haddress, hheaders, rfl⟩ := h
  have hall : QualifiedName.parseAll e.requiredHeaders = .ok headers := mapM_eq_ok_iff.2 hheaders
  unfold filterOf AddressFilter.parse
  rw [hall, haddress]
  rfl

/-- Registering an endpoint is registering the filter that it asks for. -/
theorem register_eq {e : EndpointConfig} {f : AddressFilter} (h : e.AsksFor f)
    (t : AddressTable String) : register t e = (t.add f e.name).mapError (.refused e.name) := by
  unfold register
  rw [filterOf_of_asksFor h]
  rfl

/-- An endpoint that is taken adds one filter. -/
theorem size_register {t t' : AddressTable String} {e : EndpointConfig} (h : register t e = .ok t') :
    t'.size = t.size + 1 := by
  obtain ⟨f, -, h⟩ := ok_of_bind_eq_ok h
  exact AddressTable.size_add (ok_of_mapError_eq_ok h)

/-- **An endpoint is taken unless its filter is live**, and then its filter is. -/
theorem register_of_keeps {t : AddressTable String} {lookup : HostLookup}
    {live : List (Registration String)} (h : t.Keeps lookup live) {e : EndpointConfig}
    {f : AddressFilter} (hf : e.AsksFor f) :
    (Ledger.holds live f = true ∧ ∀ t', register t e ≠ .ok t')
      ∨ Ledger.holds live f = false
        ∧ ∃ t', register t e = .ok t' ∧ t'.Keeps lookup (live ++ [⟨f, e.name⟩]) := by
  obtain ⟨hreply, hkeeps⟩ := h.add f e.name
  rw [register_eq hf]
  unfold Ledger.add at hreply hkeeps
  cases hlive : Ledger.holds live f with
  | true =>
    rw [hlive, if_pos rfl] at hreply
    cases hadd : t.add f e.name with
    | error reason => exact Or.inl ⟨rfl, fun t' ht' => by cases ht'⟩
    | ok t' =>
      -- the list refuses what the table would have taken
      rw [hadd] at hreply
      cases hreply
  | false =>
    rw [hlive, if_neg Bool.false_ne_true] at hreply hkeeps
    cases hadd : t.add f e.name with
    | error reason =>
      rw [hadd] at hreply
      cases hreply
    | ok t' =>
      rw [hadd] at hkeeps
      exact Or.inr ⟨rfl, t', rfl, hkeeps⟩

theorem holds_concat (live : List (Registration String)) (r : Registration String)
    (f : AddressFilter) : Ledger.holds (live ++ [r]) f = false
      ↔ Ledger.holds live f = false ∧ f ≠ r.filter := by
  unfold Ledger.holds
  rw [List.any_append, Bool.or_eq_false_iff, List.any_cons, List.any_nil, Bool.or_false,
    decide_eq_false_iff_not]
  exact and_congr_right' ne_comm

/-- **Endpoints are all taken** exactly if no two of them ask for one filter, and none for a live one. -/
theorem register_all_iff {es : List EndpointConfig} {fs : List AddressFilter}
    (hfs : List.Forall₂ EndpointConfig.AsksFor es fs) {t : AddressTable String} {lookup : HostLookup}
    {live : List (Registration String)} (h : t.Keeps lookup live) :
    (∃ t', es.foldlM register t = .ok t')
      ↔ fs.Nodup ∧ ∀ f ∈ fs, Ledger.holds live f = false := by
  induction hfs generalizing t live with
  | nil => exact iff_of_true ⟨t, rfl⟩ ⟨.nil, fun _ hf => absurd hf List.not_mem_nil⟩
  | @cons e f es fs hf _ ih =>
    rw [List.nodup_cons, List.forall_mem_cons]
    rcases register_of_keeps h hf with ⟨hlive, hnone⟩ | ⟨hlive, t₁, ht₁, hkeeps⟩
    · refine iff_of_false ?_ ?_
      · rintro ⟨t', ht'⟩
        obtain ⟨t₁, ht₁, -⟩ := ok_of_bind_eq_ok ht'
        exact hnone t₁ ht₁
      · rintro ⟨-, hfree, -⟩
        rw [hlive] at hfree
        cases hfree
    · have hstep : (e :: es).foldlM register t = es.foldlM register t₁ := by
        rw [List.foldlM_cons, ht₁]
        rfl
      rw [hstep, ih hkeeps]
      -- the filters behind must not be live, and not this one
      simp only [holds_concat]
      constructor
      · rintro ⟨hnodup, hrest⟩
        exact ⟨⟨fun hmem => (hrest f hmem).2 rfl, hnodup⟩, hlive, fun g hg => (hrest g hg).1⟩
      · rintro ⟨⟨hmem, hnodup⟩, -, hrest⟩
        exact ⟨hnodup, fun g hg => ⟨hrest g hg, fun heq => hmem (heq ▸ hg)⟩⟩

/-! ## Operations -/

theorem enroll_eq_ok_iff {t t' : TemplateTable String} {o : OperationConfig} :
    enroll t o = .ok t' ↔ t.add o.template o.name = .ok t' := by
  refine ⟨ok_of_mapError_eq_ok, fun h => ?_⟩
  unfold enroll
  rw [h]
  rfl

end Dispatcher

/-! ## The entry that is reported -/

namespace Config

/-- **An endpoint is the first entry refused**: the filter that it asks for is refused by the table that
the endpoints before it have filled. -/
def RefusesEndpoint (c : Config) (e : EndpointConfig) (reason : DispatchError) : Prop :=
  ∃ before after t f, c.endpoints = before ++ e :: after
    ∧ before.foldlM Dispatcher.register (.empty c.matching.hostLookup) = .ok t
    ∧ e.AsksFor f ∧ t.add f e.name = .error reason

/-- **An operation is the first entry refused**: all endpoints were taken, and its template is refused by
the table that the operations before it have filled. -/
def RefusesOperation (c : Config) (o : OperationConfig) (reason : DispatchError) : Prop :=
  (∃ s, c.endpoints.foldlM Dispatcher.register (.empty c.matching.hostLookup) = .ok s)
  ∧ ∃ before after t, c.operations = before ++ o :: after
    ∧ before.foldlM Dispatcher.enroll (.empty c.matching.allowDuplicates c.matching.basePath) = .ok t
    ∧ t.add o.template o.name = .error reason

end Config

namespace Dispatcher

/-- **Registering the endpoints fails** with the first one refused, as a duplicate, if each of them asks
for a filter. -/
theorem register_all_eq_error_iff {c : Config} (hfilter : ∀ e ∈ c.endpoints, ∃ f, e.AsksFor f)
    (err : ConfigError) :
    c.endpoints.foldlM register (.empty c.matching.hostLookup) = .error err
      ↔ ∃ e f, c.RefusesEndpoint e (.duplicateFilter f.display) ∧ e.AsksFor f
        ∧ err = .refused e.name (.duplicateFilter f.display) := by
  rw [foldlM_eq_error_iff]
  constructor
  · rintro ⟨before, e, after, t, hsplit, hbefore, he⟩
    obtain ⟨f, hf⟩ := hfilter e (by simp [hsplit])
    rw [register_eq hf, mapError_eq_error_iff] at he
    obtain ⟨reason, hadd, rfl⟩ := he
    obtain rfl := AddressTable.eq_duplicate_of_add hadd
    exact ⟨e, f, ⟨before, after, t, f, hsplit, hbefore, hf, hadd⟩, hf, rfl⟩
  · rintro ⟨e, _, ⟨before, after, t, f, hsplit, hbefore, hf, hadd⟩, -, rfl⟩
    refine ⟨before, e, after, t, hsplit, hbefore, ?_⟩
    rw [register_eq hf, mapError_eq_error_iff]
    exact ⟨_, hadd, rfl⟩

/-- **Registering the operations fails** with the first one refused, for its format or for a conflict. -/
theorem enroll_all_eq_error_iff (c : Config) (err : ConfigError) :
    (∃ s, c.endpoints.foldlM register (.empty c.matching.hostLookup) = .ok s)
      ∧ c.operations.foldlM enroll (.empty c.matching.allowDuplicates c.matching.basePath) = .error err
      ↔ ∃ o reason, c.RefusesOperation o reason ∧ err = .refused o.name reason
        ∧ ((∃ fault, reason = .format o.template fault)
          ∨ ∃ first second why, reason = .conflict first second why) := by
  rw [foldlM_eq_error_iff]
  constructor
  · rintro ⟨hs, before, o, after, t, hsplit, hbefore, ho⟩
    obtain ⟨reason, hadd, rfl⟩ := mapError_eq_error_iff.1 ho
    exact ⟨o, reason, ⟨hs, before, after, t, hsplit, hbefore, hadd⟩, rfl,
      TemplateTable.format_or_conflict_of_add hadd⟩
  · rintro ⟨o, reason, ⟨hs, before, after, t, hsplit, hbefore, hadd⟩, rfl, -⟩
    exact ⟨hs, before, o, after, t, hsplit, hbefore, mapError_eq_error_iff.2 ⟨reason, hadd, rfl⟩⟩

/-- **What building a checked configuration comes to.** It is never called invalid. If it fails, it
fails with the first entry that its table refuses: an endpoint, refused as a duplicate, or an operation,
refused for its format or for a conflict. It succeeds exactly if the filters that its endpoints ask for
are all different and every operation is taken after those before it; and then the dispatcher holds a
filter for each endpoint and a template for each operation. -/
theorem ofConfig_of_checked {c : Config} (hc : c.problems = []) (m : Metrics) :
    (∀ problems, ((ofConfig c).run.run m).1 ≠ .error (.invalid problems))
    ∧ (∀ err, ((ofConfig c).run.run m).1 = .error err
      ↔ (∃ e f, c.RefusesEndpoint e (.duplicateFilter f.display) ∧ e.AsksFor f
          ∧ err = .refused e.name (.duplicateFilter f.display))
        ∨ ∃ o reason, c.RefusesOperation o reason ∧ err = .refused o.name reason
          ∧ ((∃ fault, reason = .format o.template fault)
            ∨ ∃ first second why, reason = .conflict first second why))
    ∧ (∃ fs, List.Forall₂ EndpointConfig.AsksFor c.endpoints fs
      ∧ ((∃ d, ((ofConfig c).run.run m).1 = .ok d) ↔ fs.Nodup
        ∧ ∃ t, c.operations.foldlM enroll (.empty c.matching.allowDuplicates c.matching.basePath)
          = .ok t))
    ∧ ∀ d, ((ofConfig c).run.run m).1 = .ok d
      → d.addresses.size = c.endpoints.length ∧ d.templates.size = c.operations.length := by
  rw [comesTo_ofConfig c m]
  have hfilter := Config.exists_filter_of_checked hc
  have herror := fun err => build_eq_error_iff.trans
    (or_congr (register_all_eq_error_iff hfilter err) (enroll_all_eq_error_iff c err))
  refine ⟨fun problems h => ?_, herror, ?_, fun d hd => ?_⟩
  · rcases (herror _).1 h with ⟨_, _, -, -, hrefused⟩ | ⟨_, _, -, hrefused, -⟩
    · cases hrefused
    · cases hrefused
  · obtain ⟨fs, hfs⟩ := exists_forall₂ hfilter
    have hendpoints := register_all_iff hfs (AddressTable.keeps_empty c.matching.hostLookup)
    refine ⟨fs, hfs, ?_, ?_⟩
    · rintro ⟨d, hd⟩
      obtain ⟨haddresses, htemplates⟩ := build_eq_ok_iff.1 hd
      exact ⟨(hendpoints.1 ⟨_, haddresses⟩).1, _, htemplates⟩
    · rintro ⟨hnodup, t, ht⟩
      obtain ⟨s, hs⟩ := hendpoints.2 ⟨hnodup, fun _ _ => rfl⟩
      exact ⟨⟨s, t⟩, build_eq_ok_iff.2 ⟨hs, ht⟩⟩
  · obtain ⟨haddresses, htemplates⟩ := build_eq_ok_iff.1 hd
    constructor
    · rw [size_foldlM AddressTable.size (fun _ _ _ => size_register) haddresses]
      exact Nat.zero_add _
    · have hone : ∀ t o t', enroll t o = .ok t' → t'.size = t.size + 1 :=
        fun _ _ _ h => TemplateTable.size_add (enroll_eq_ok_iff.1 h)
      rw [size_foldlM TemplateTable.size hone htemplates]
      exact Nat.zero_add _

/-- Two endpoints that share an address and a header, and differ in whether the host counts. A third one
repeats a header of the first and asks for the same filter; and there are two operations that no query
can tell apart, but these come after the endpoints. -/
theorem ofConfig_of_checked_repeated :
    let c : Config := {
      endpoints := [⟨"a", "http://host/a", true, ["To"]⟩, ⟨"b", "http://host/a", false, ["To"]⟩]
      operations := [⟨"list", "/items"⟩] }
    let repeated : Config := {
      endpoints := c.endpoints ++ [⟨"c", "http://host/a", true, ["\x7b\x7dTo", "To"]⟩]
      operations := c.operations ++ [⟨"again", "/Items"⟩] }
    let err : ConfigError := .refused "c" (.duplicateFilter "http://host:80/a [To]")
    c.problems = [] ∧ repeated.problems = []
      ∧ (∃ d, ((ofConfig c).run.run {}).1 = .ok d ∧ d.addresses.size = 2 ∧ d.templates.size = 1)
      ∧ ((ofConfig repeated).run.run {}).1 = .error err
      ∧ ((∃ e f, repeated.RefusesEndpoint e (.duplicateFilter f.display) ∧ e.AsksFor f
          ∧ err = .refused e.name (.duplicateFilter f.display))
        ∨ ∃ o reason, repeated.RefusesOperation o reason ∧ err = .refused o.name reason
          ∧ ((∃ fault, reason = .format o.template fault)
            ∨ ∃ first second why, reason = .conflict first second why)) := by
  intro c repeated err
  have hc : c.problems = [] := by decide +kernel
  have hrepeated : repeated.problems = [] := by decide +kernel
  have hbuilds : ((ofConfig c).run.run {}).1.isOk := by decide +kernel
  have hfails : ((ofConfig repeated).run.run {}).1.map (fun _ => ()) = .error err := by decide +kernel
  have hok : ∃ d, ((ofConfig c).run.run {}).1 = .ok d := by
    cases h : ((ofConfig c).run.run {}).1 with
    | error e => rw [h] at hbuilds; cases hbuilds
    | ok d => exact ⟨d, rfl⟩
  have herror : ((ofConfig repeated).run.run {}).1 = .error err := by
    cases h : ((ofConfig repeated).run.run {}).1 with
    | error e => rw [h] at hfails; exact congrArg Except.error (Except.error.inj hfails)
    | ok d => rw [h] at hfails; cases hfails
  obtain ⟨d, hd⟩ := hok
  exact ⟨hc, hrepeated, ⟨d, hd, (ofConfig_of_checked hc {}).2.2.2 d hd⟩, herror,
    ((ofConfig_of_checked hrepeated {}).2.1 err).1 herror⟩

end Dispatcher

end Switchboard
