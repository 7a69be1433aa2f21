import Switchboard.Dispatcher
import Switchboard.Proofs.Counters

/-!
# What the gauge shows of a dispatcher that is replaced

The gauge is meant to show the number of candidate sets of the address table that is in use. It is
set whenever an endpoint is put into a table, whichever table that is. While a dispatcher is built
from a new configuration there are two tables, the one in use and the one that is being filled, and
the gauge follows the second, before it is known whether the configuration will be accepted.

So two things keep the gauge from the table in use. A configuration that is refused after one of its
endpoints was taken leaves the count of a table that nobody uses. A configuration without endpoints
is accepted and leaves the count of the table before it. Nothing corrects the gauge until an endpoint
is taken again.

What the gauge shows is therefore known exactly (`Dispatcher.run_gauge_iff`): the table filled from
the **last configuration of which an endpoint was taken**, where the table in use is the one filled
from the **last configuration from which a dispatcher was built**. The gauge is right when these two
have as many sets, and in particular when the two configurations are one.
-/

namespace Switchboard

/-! ## Calls on the live dispatcher -/

/-- **A call on the live dispatcher.** -/
inductive DispatcherCall where
  /-- Replace it by one built from a configuration. -/
  | apply (config : Config)
  /-- Ask for the endpoints that a request goes to. -/
  | resolve (request : Request)
  /-- Ask for the operations that a path and a query ask for. -/
  | route (path : String) (query : Query)

/-- What is replied to a call on the live dispatcher. -/
inductive DispatcherReply where
  /-- Whether the dispatcher was replaced. -/
  | applied (outcome : Except ConfigError Unit)
  /-- Endpoints. -/
  | endpoints (names : List String)
  /-- Operations. -/
  | operations (answers : List (TemplateMatch String))

/-- The configuration that a call hands over. -/
def DispatcherCall.config? : DispatcherCall → Option Config
  | .apply c => some c
  | _ => none

namespace Dispatcher

/-- **Carrying out a call**: the reply, and the dispatcher that is live after it. -/
def call (d : Dispatcher) : DispatcherCall → Metered (DispatcherReply × Dispatcher)
  | .apply c => do
    let next ← d.replace c
    return (.applied next.2, next.1)
  | .resolve r => return (.endpoints (← d.resolve r), d)
  | .route path query => return (.operations (← d.route path query), d)

/-- **A run on the live dispatcher.** -/
def run (d : Dispatcher) (calls : List DispatcherCall) :
    Metered (List DispatcherReply × Dispatcher) :=
  runAllM call d calls

/-- **A run from the start**: a dispatcher is built from a configuration and put to use, and calls are
made on it. What is left is the live dispatcher and the metrics, or nothing if no dispatcher could be
built. -/
def runFrom (first : Config) (calls : List DispatcherCall) : Option (Dispatcher × Metrics) :=
  match (ofConfig first).run.run {} with
  | (.ok start, counted) =>
    let after := (start.run calls).run counted
    some (after.1.2, after.2)
  | (.error _, _) => none

/-! ## The table that a configuration fills -/

/-- Registers an endpoint, without counting. -/
def register (t : AddressTable String) (e : EndpointConfig) :
    Except ConfigError (AddressTable String) :=
  filterOf e >>= fun f => (t.add f e.name).mapError (.refused e.name)

/-- The table after some endpoints, up to the first that is refused. -/
def fill (t : AddressTable String) : List EndpointConfig → AddressTable String
  | [] => t
  | e :: es =>
    match register t e with
    | .ok t' => fill t' es
    | .error _ => t

/-- **The table that a configuration fills**, whether or not it is accepted in the end. -/
def filled (c : Config) : AddressTable String :=
  fill (.empty c.matching.hostLookup) c.endpoints

/-- **Whether an endpoint of a configuration is taken.** -/
def takes (c : Config) : Bool :=
  !(filled c).isEmpty

/-- **Whether a dispatcher can be built** from a configuration. -/
def builds (c : Config) : Bool :=
  ((ofConfig c).run.run {}).1.isOk

/-- Building with another step to follow. -/
theorem run_bind {α β : Type} (x : Building α) (f : α → Building β) (m : Metrics) :
    (x >>= f).run.run m = match x.run.run m with
      | (.ok a, m') => (f a).run.run m'
      | (.error e, m') => (.error e, m') := by
  show (ExceptT.bindCont f (x.run.run m).1).run (x.run.run m).2 = _
  rcases x.run.run m with ⟨_ | _, m'⟩ <;> rfl

/-- Saying whose registration was refused counts nothing. -/
theorem run_mk_map {α β : Type} (x : Metered (Except DispatchError α))
    (f : Except DispatchError α → Except ConfigError β) (m : Metrics) :
    (ExceptT.mk (f <$> x) : Building β).run.run m = (f (x.run m).1, (x.run m).2) := rfl

/-- Registering an endpoint while building: the gauge shows the table after it. -/
theorem run_addEndpoint (t : AddressTable String) (e : EndpointConfig) (m : Metrics) :
    (addEndpoint t e).run.run m = (register t e, match register t e with
      | .ok t' => (m.registered .address).sized t'.setCount
      | .error _ => m) := by
  unfold addEndpoint register
  cases filterOf e with
  | error err => rfl
  | ok f =>
    show (((t.addM f e.name).run m).1.mapError _, ((t.addM f e.name).run m).2) = _
    unfold AddressTable.addM
    dsimp only [bind, Except.bind]
    cases t.add f e.name with
    | error err => rfl
    | ok t' => rfl

/-! ## Filling -/

/-- An endpoint that is taken leaves a table that is not empty. -/
theorem isEmpty_of_register {t t' : AddressTable String} {e : EndpointConfig}
    (h : register t e = .ok t') : t'.isEmpty = false := by
  unfold register at h
  cases hf : filterOf e with
  | error err => rw [hf] at h; cases h
  | ok f =>
    rw [hf] at h
    replace h : (t.add f e.name).mapError (ConfigError.refused e.name) = .ok t' := h
    unfold AddressTable.add at h
    split at h
    · cases h
    · cases h
      rfl

/-- A table that is not empty stays so while it is filled. -/
theorem isEmpty_fill {t : AddressTable String} (h : t.isEmpty = false) (es : List EndpointConfig) :
    (fill t es).isEmpty = false := by
  induction es generalizing t with
  | nil => exact h
  | cons e es ih =>
    unfold fill
    cases hr : register t e with
    | error err => exact h
    | ok t' => exact ih (isEmpty_of_register hr)

/-- **Endpoints registered one after another** fill the table. The gauge follows the table from the
first endpoint that is taken. -/
theorem run_endpoints (es : List EndpointConfig) (t : AddressTable String) (m : Metrics)
    (h : t.isEmpty = true ∨ m.candidateSets = some t.setCount) :
    (∀ t', ((es.foldlM addEndpoint t).run.run m).1 = .ok t' → t' = fill t es)
      ∧ ((es.foldlM addEndpoint t).run.run m).2.candidateSets
          = if (fill t es).isEmpty then m.candidateSets else some (fill t es).setCount := by
  induction es generalizing t m with
  | nil =>
    refine ⟨fun t' ht' => (Except.ok.inj ht').symm, ?_⟩
    show m.candidateSets = if t.isEmpty then m.candidateSets else some t.setCount
    rcases h with hempty | hgauge
    · rw [hempty, if_pos rfl]
    · rw [hgauge, ite_self]
  | cons e es ih =>
    rw [List.foldlM_cons, run_bind, run_addEndpoint]
    unfold fill
    cases hr : register t e with
    | error err =>
      -- the table stays as it was, and the gauge with it
      refine ⟨fun t' ht' => (by cases ht'), ?_⟩
      show m.candidateSets = if t.isEmpty then m.candidateSets else some t.setCount
      rcases h with hempty | hgauge
      · rw [hempty, if_pos rfl]
      · rw [hgauge, ite_self]
    | ok t' =>
      obtain ⟨htable, hgauge⟩ := ih t' ((m.registered .address).sized t'.setCount) (Or.inr rfl)
      refine ⟨htable, hgauge.trans ?_⟩
      rw [isEmpty_fill (isEmpty_of_register hr)]
      rfl

/-- Registering operations leaves the gauge. -/
theorem gauge_operations (os : List OperationConfig) (t : TemplateTable String) (m : Metrics) :
    ((os.foldlM addOperation t).run.run m).2.candidateSets = m.candidateSets := by
  have hstep : ∀ (t : TemplateTable String) o m,
      ((addOperation t o).run.run m).2.candidateSets = m.candidateSets := by
    intro t o m
    simp only [addOperation, run_mk_map, TemplateTable.metrics_addM]
  induction os generalizing t m with
  | nil => rfl
  | cons o os ih =>
    have hone := hstep t o m
    rw [List.foldlM_cons, run_bind]
    generalize (addOperation t o).run.run m = built at hone ⊢
    rcases built with ⟨_ | t', m'⟩
    · exact hone
    · exact (ih t' m').trans hone

/-- **Building a dispatcher**: its address table is the one that the configuration fills, and the
gauge shows that table if an endpoint was taken, whether or not there is a dispatcher in the end. -/
theorem run_ofConfig (c : Config) (m : Metrics) :
    (∀ d, ((ofConfig c).run.run m).1 = .ok d → d.addresses = filled c)
      ∧ ((ofConfig c).run.run m).2.candidateSets
          = if takes c then some (filled c).setCount else m.candidateSets := by
  obtain ⟨htable, hgauge⟩ := run_endpoints c.endpoints (.empty c.matching.hostLookup) m (Or.inl rfl)
  have hflip : (if takes c then some (filled c).setCount else m.candidateSets)
      = if (filled c).isEmpty then m.candidateSets else some (filled c).setCount := by
    unfold takes
    cases (filled c).isEmpty <;> rfl
  rw [hflip]
  unfold ofConfig
  rw [run_bind]
  generalize (c.endpoints.foldlM addEndpoint (.empty c.matching.hostLookup)).run.run m = built
    at htable hgauge ⊢
  rcases built with ⟨_ | addresses, m'⟩
  · exact ⟨fun d hd => (by cases hd), hgauge⟩
  · have htemplates := gauge_operations c.operations
      (.empty c.matching.allowDuplicates c.matching.basePath) m'
    dsimp only at hgauge ⊢
    rw [run_bind]
    generalize (c.operations.foldlM addOperation
      (.empty c.matching.allowDuplicates c.matching.basePath)).run.run m' = built at htemplates ⊢
    rcases built with ⟨_ | templates, m''⟩
    · exact ⟨fun d hd => (by cases hd), htemplates.trans hgauge⟩
    · refine ⟨fun d hd => ?_, htemplates.trans hgauge⟩
      obtain rfl := Except.ok.inj hd
      exact htable addresses rfl

/-! ## Building does not look at the metrics -/

/-- **A building step is steady** if what it comes to does not depend on what was counted before. -/
def Steady {α : Type} (x : Building α) : Prop :=
  ∀ m m', (x.run.run m).1 = (x.run.run m').1

/-- Steady steps one after another are steady. -/
theorem Steady.bind {α β : Type} {x : Building α} {f : α → Building β} (hx : Steady x)
    (hf : ∀ a, Steady (f a)) : Steady (x >>= f) := by
  intro m m'
  have hsame := hx m m'
  rw [run_bind, run_bind]
  generalize x.run.run m = built, x.run.run m' = built' at hsame ⊢
  obtain ⟨r, m⟩ := built
  obtain ⟨r', m'⟩ := built'
  obtain rfl : r = r' := hsame
  cases r with
  | error e => rfl
  | ok a => exact hf a m m'

theorem Steady.foldlM {α β : Type} {f : β → α → Building β} (hf : ∀ b a, Steady (f b a))
    (l : List α) (b : β) : Steady (l.foldlM f b) := by
  induction l generalizing b with
  | nil => exact fun _ _ => rfl
  | cons a l ih =>
    rw [List.foldlM_cons]
    exact (hf b a).bind ih

/-- **Whether a dispatcher can be built**, and which, does not depend on what was counted before. -/
theorem steady_ofConfig (c : Config) : Steady (ofConfig c) := by
  have hendpoint : ∀ t e, Steady (addEndpoint t e) := by
    intro t e m m'
    rw [run_addEndpoint, run_addEndpoint]
  have hoperation : ∀ t o, Steady (addOperation t o) := by
    intro t o m m'
    have hadd : ∀ m, ((t.addM o.template o.name).run m).1 = t.add o.template o.name :=
      t.result_addM o.template o.name
    rw [addOperation, run_mk_map, run_mk_map, hadd, hadd]
  exact (Steady.foldlM hendpoint _ _).bind fun _ =>
    (Steady.foldlM hoperation _ _).bind fun _ _ _ => rfl

/-! ## Every run -/

/-- The configurations that a run hands over, in order. -/
def handed (calls : List DispatcherCall) : List Config :=
  calls.filterMap DispatcherCall.config?

/-- **A dispatcher and the metrics after some configurations**: the table in use is filled from the
last one from which a dispatcher could be built, and the gauge shows the table filled from the last
one of which an endpoint was taken. -/
structure Shows (configs : List Config) (d : Dispatcher) (m : Metrics) : Prop where
  /-- The table in use. -/
  live : (configs.filter builds).getLast?.map filled = some d.addresses
  /-- What the gauge shows. -/
  gauge : m.candidateSets
    = (configs.filter takes).getLast?.map fun c => (filled c).setCount

/-- The last of the elements with a property, after one more. -/
theorem getLast?_filter_concat {α : Type} (p : α → Bool) (l : List α) (a : α) :
    ((l ++ [a]).filter p).getLast? = if p a then some a else (l.filter p).getLast? := by
  rw [List.filter_append]
  cases h : p a with
  | false => rw [List.filter_cons_of_neg (by simp [h])]; simp
  | true => rw [List.filter_cons_of_pos h]; simp

/-- Replacing the dispatcher is building one, and keeping the old one if there is none. -/
theorem run_replace (d : Dispatcher) (c : Config) (m : Metrics) :
    (d.replace c).run m = match (ofConfig c).run.run m with
      | (.ok next, m') => ((next, .ok ()), m')
      | (.error e, m') => ((d, .error e), m') := by
  have hbind : ∀ f : Except ConfigError Dispatcher → Metered (Dispatcher × Except ConfigError Unit),
      ((ofConfig c).run >>= f).run m
        = (f ((ofConfig c).run.run m).1).run ((ofConfig c).run.run m).2 := fun _ => rfl
  rw [Dispatcher.replace, hbind]
  generalize (ofConfig c).run.run m = built
  obtain ⟨e | next, m'⟩ := built
  · rfl
  · rfl

/-- **One more configuration.** -/
theorem Shows.replace {configs : List Config} {d : Dispatcher} {m : Metrics}
    (h : Shows configs d m) (c : Config) :
    Shows (configs ++ [c]) ((d.replace c).run m).1.1 ((d.replace c).run m).2 := by
  obtain ⟨htable, hgauge⟩ := run_ofConfig c m
  have hbuilds : builds c = ((ofConfig c).run.run m).1.isOk :=
    congrArg Except.isOk (steady_ofConfig c {} m)
  -- the gauge is set or left alone whether or not there is a new dispatcher
  have hshown : ((ofConfig c).run.run m).2.candidateSets
      = ((configs ++ [c]).filter takes).getLast?.map fun c => (filled c).setCount := by
    rw [hgauge, getLast?_filter_concat, h.gauge]
    cases takes c <;> rfl
  rw [run_replace]
  generalize (ofConfig c).run.run m = built at htable hbuilds hshown ⊢
  obtain ⟨e | next, m'⟩ := built
  · refine ⟨?_, hshown⟩
    rw [getLast?_filter_concat, hbuilds]
    exact h.live
  · refine ⟨?_, hshown⟩
    rw [getLast?_filter_concat, hbuilds]
    exact congrArg some (htable next rfl).symm

/-- **A call goes along.** Requests do not touch the gauge. -/
theorem Shows.call {configs : List Config} {d : Dispatcher} {m : Metrics}
    (h : Shows configs d m) (c : DispatcherCall) :
    Shows (configs ++ c.config?.toList) ((d.call c).run m).1.2 ((d.call c).run m).2 := by
  cases c with
  | apply c => exact h.replace c
  | resolve r =>
    show Shows (configs ++ []) _ _
    rw [List.append_nil, Dispatcher.call, Metered.metrics_bind_pure, resolve, AddressTable.run_matchM]
    exact ⟨h.live, h.gauge⟩
  | route path query =>
    show Shows (configs ++ []) _ _
    rw [List.append_nil, Dispatcher.call, Metered.metrics_bind_pure, route, TemplateTable.run_matchM]
    exact ⟨h.live, h.gauge⟩

/-- **A run goes along.** -/
theorem Shows.run {configs : List Config} {d : Dispatcher} {m : Metrics}
    (h : Shows configs d m) (calls : List DispatcherCall) :
    Shows (configs ++ handed calls) ((d.run calls).run m).1.2 ((d.run calls).run m).2 := by
  induction calls generalizing configs d m with
  | nil =>
    show Shows (configs ++ []) d m
    rw [List.append_nil]
    exact h
  | cons c cs ih =>
    have hhanded : handed (c :: cs) = c.config?.toList ++ handed cs := by
      unfold handed
      rw [List.filterMap_cons]
      cases c.config? <;> rfl
    rw [hhanded, ← List.append_assoc]
    exact ih (h.call c)

/-- The run from the start goes along. -/
theorem shows_of_runFrom {first : Config} {calls : List DispatcherCall} {d : Dispatcher}
    {m : Metrics} (h : runFrom first calls = some (d, m)) : Shows (first :: handed calls) d m := by
  obtain ⟨htable, hgauge⟩ := run_ofConfig first {}
  have hbuilds : builds first = ((ofConfig first).run.run {}).1.isOk := rfl
  unfold runFrom at h
  generalize (ofConfig first).run.run {} = built at h htable hgauge hbuilds
  obtain ⟨e | start, counted⟩ := built
  · cases h
  · have hstart : Shows [first] start counted := by
      refine ⟨?_, hgauge.trans ?_⟩
      · rw [List.filter_cons_of_pos hbuilds]
        exact congrArg some (htable start rfl).symm
      · rw [List.filter_cons]
        cases takes first <;> rfl
    cases h
    exact hstart.run calls

/-- **What the gauge shows.** After any run from the start, the table in use is the one filled from
the last configuration from which a dispatcher could be built, the gauge shows the table filled from
the last one of which an endpoint was taken, and the gauge, once set, is right exactly if these two
tables have as many sets. -/
theorem run_gauge_iff (first : Config) (calls : List DispatcherCall) (d : Dispatcher) (m : Metrics)
    (h : runFrom first calls = some (d, m)) :
    let configs := first :: handed calls
    (configs.filter builds).getLast?.map filled = some d.addresses
      ∧ m.candidateSets = (configs.filter takes).getLast?.map (fun c => (filled c).setCount)
      ∧ ((∀ n, m.candidateSets = some n → n = d.addresses.setCount)
        ↔ ∀ inUse shown, (configs.filter builds).getLast? = some inUse
            → (configs.filter takes).getLast? = some shown
            → (filled shown).setCount = (filled inUse).setCount) := by
  intro configs
  have hshows : Shows configs d m := shows_of_runFrom h
  refine ⟨hshows.live, hshows.gauge, ?_⟩
  rw [hshows.gauge]
  obtain ⟨inUse, hinUse, htable⟩ := Option.map_eq_some_iff.1 hshows.live
  rw [hinUse, ← htable]
  constructor
  · rintro hright _ shown ⟨⟩ hshown
    exact hright _ (congrArg (Option.map _) hshown)
  · intro hsame n hn
    obtain ⟨shown, hshown, rfl⟩ := Option.map_eq_some_iff.1 hn
    exact hsame inUse shown rfl hshown

/-- An endpoint that is named by its path. -/
def endpointAt (name : String) : EndpointConfig where
  name := name
  address := "http://host/" ++ name

/-- After a configuration with two endpoints was accepted, and one refused before any endpoint of it
was taken, the gauge is right. -/
theorem run_gauge_of_accepted :
    let calls : List DispatcherCall := [.apply { endpoints := [endpointAt "a", endpointAt "b"] },
      .apply { endpoints := [⟨"c", "nowhere", true, []⟩] }]
    ∃ d m, runFrom { endpoints := [endpointAt "a"] } calls = some (d, m)
      ∧ m.candidateSets = some 2 ∧ ∀ n, m.candidateSets = some n → n = d.addresses.setCount := by
  intro calls
  have hgauge : (runFrom { endpoints := [endpointAt "a"] } calls).map (fun s => s.2.candidateSets)
      = some (some 2) := by decide +kernel
  obtain ⟨⟨d, m⟩, h, hm⟩ := Option.map_eq_some_iff.1 hgauge
  refine ⟨d, m, h, hm, (run_gauge_iff _ calls d m h).2.2.2 (fun inUse shown hinUse hshown => ?_)⟩
  have hlast : (({ endpoints := [endpointAt "a"] } :: handed calls).filter builds).getLast?
      = (({ endpoints := [endpointAt "a"] } :: handed calls).filter takes).getLast? := by
    decide +kernel
  rw [hinUse, hshown] at hlast
  cases hlast
  rfl

/-- **The gauge can outlive the table it was set for.** After a configuration with one endpoint, one
with two endpoints is refused for its operation: the gauge shows two sets and there is one. After the
same start, a configuration without endpoints is accepted: the gauge shows one set and there is
none. -/
theorem gauge_outlives_table :
    (runFrom { endpoints := [endpointAt "a"] }
        [.apply { endpoints := [endpointAt "a", endpointAt "b"], operations := [⟨"t", "/\x7b"⟩] }]).map
        (fun s => (s.2.candidateSets, s.1.addresses.setCount)) = some (some 2, 1)
      ∧ (runFrom { endpoints := [endpointAt "a"] } [.apply {}]).map
        (fun s => (s.2.candidateSets, s.1.addresses.setCount)) = some (some 1, 0) := by
  decide +kernel

end Dispatcher

end Switchboard
