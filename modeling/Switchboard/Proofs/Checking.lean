import Switchboard.Config.Validation

/-!
# What a check reports

A configuration is checked place by place: the metrics address; of each endpoint its name, its address and
its headers; of each operation its name and its template. This module says what is wrong at a place without
saying how the check goes about it (`Config.Fault`), and proves that the check reports just that
(`Config.Reports`): **every fault once, in the order of the places, and nothing else**.

Nothing about one place hides or doubles what is wrong at another one. What counts for a name are the names
before it, of endpoints or of operations, whatever else is wrong with them. The check keeps these names in
a list as it goes, the last one first and blank ones included; that makes no difference, since a name that
is not blank is never equal to a blank one and the order of a list does not matter to what is in it.

A problem names its place by a text, the path of the field. Two places have two texts (`Spot.field_inj`),
so a problem can be read back to the numbers it carries.
-/

namespace Switchboard.Config

/-! ## Places -/

/-- A part of an endpoint that is checked. -/
inductive EndpointPart where
  /-- Its name. -/
  | name
  /-- Its address. -/
  | address
  /-- The header with a number. -/
  | header (j : Nat)

/-- A part of an operation that is checked. -/
inductive OperationPart where
  /-- Its name. -/
  | name
  /-- Its template. -/
  | template

/-- **A place of a configuration** that is checked. -/
inductive Spot where
  /-- The address at which metrics are offered. -/
  | metricsAddress
  /-- A part of the endpoint with a number. -/
  | endpoint (i : Nat) (part : EndpointPart)
  /-- A part of the operation with a number. -/
  | operation (i : Nat) (part : OperationPart)

/-- The path of a part, behind that of its endpoint. -/
def EndpointPart.field : EndpointPart → String
  | .name => ".name"
  | .address => ".address"
  | .header j => s!".required_headers[{j}]"

/-- The path of a part, behind that of its operation. -/
def OperationPart.field : OperationPart → String
  | .name => ".name"
  | .template => ".template"

/-- **The path of a place.** -/
def Spot.field : Spot → String
  | .metricsAddress => "observability.metrics_address"
  | .endpoint i part => s!"endpoints[{i}]" ++ part.field
  | .operation i part => s!"templates[{i}]" ++ part.field

/-- The numbers by which the parts of an endpoint are ordered. -/
def EndpointPart.rank : EndpointPart → List Nat
  | .name => [0]
  | .address => [1]
  | .header j => [2, j]

/-- The numbers by which the parts of an operation are ordered. -/
def OperationPart.rank : OperationPart → List Nat
  | .name => [0]
  | .template => [1]

/-- The numbers by which places are ordered. -/
def Spot.rank : Spot → List Nat
  | .metricsAddress => [0]
  | .endpoint i part => 1 :: i :: part.rank
  | .operation i part => 2 :: i :: part.rank

/-- **One place comes before another one**: metrics, then the endpoints and then the operations, each in
their order, and of each the name first and the headers of an endpoint last. -/
def Spot.Before (s t : Spot) : Prop :=
  s.rank < t.rank

/-! ## Faults -/

/-- **What is wrong with a name**, given the names before it: it is blank, or it is not and one of them is
the same. -/
inductive NameFault (kind : String) (earlier : List String) (name : String) : String → Prop where
  /-- The name is blank. -/
  | blank (blank : Text.isBlank name = true) : NameFault kind earlier name "must not be empty"
  /-- The name was used before. -/
  | repeated (filled : Text.isBlank name = false) (used : name ∈ earlier) :
    NameFault kind earlier name s!"duplicate {kind} name '{name}'"

/-- **What is wrong with an endpoint**, given the names of the endpoints before it. -/
inductive EndpointFault (earlier : List String) (e : EndpointConfig) : EndpointPart → String → Prop where
  /-- Its name is blank or was used before. -/
  | name {message : String} (fault : NameFault "endpoint" earlier e.name message) :
    EndpointFault earlier e .name message
  /-- Its address cannot be read. -/
  | address {reason : DispatchError} (unread : Address.parse e.address = .error reason) :
    EndpointFault earlier e .address reason.message
  /-- One of its headers cannot be read. -/
  | header {j : Nat} {text : String} {reason : MalformedName}
    (listed : e.requiredHeaders[j]? = some text) (unread : QualifiedName.parse text = .error reason) :
    EndpointFault earlier e (.header j) reason.message

/-- **What is wrong with an operation**, given the names of the operations before it. -/
inductive OperationFault (earlier : List String) (o : OperationConfig) : OperationPart → String → Prop where
  /-- Its name is blank or was used before. -/
  | name {message : String} (fault : NameFault "template" earlier o.name message) :
    OperationFault earlier o .name message
  /-- Its template is blank. -/
  | template (blank : Text.isBlank o.template = true) :
    OperationFault earlier o .template "must not be empty"

/-- **What is wrong with a configuration**, by the place where it is and what is said of it. -/
inductive Fault (c : Config) : Spot → String → Prop where
  /-- Metrics are offered at what is no socket address. -/
  | metricsAddress (offered : c.metrics.enabled = true)
    (unwritten : SocketAddress.isWritten c.metrics.address = false) :
    Fault c .metricsAddress s!"'{c.metrics.address}' is not a socket address"
  /-- Something is wrong with an endpoint. -/
  | endpoint {i : Nat} {e : EndpointConfig} {part : EndpointPart} {message : String}
    (listed : c.endpoints[i]? = some e)
    (fault : EndpointFault ((c.endpoints.take i).map EndpointConfig.name) e part message) :
    Fault c (.endpoint i part) message
  /-- Something is wrong with an operation. -/
  | operation {i : Nat} {o : OperationConfig} {part : OperationPart} {message : String}
    (listed : c.operations[i]? = some o)
    (fault : OperationFault ((c.operations.take i).map OperationConfig.name) o part message) :
    Fault c (.operation i part) message

/-! ## Reports -/

/-- **Problems report faults**: they are the faults, each with its place, in the order of the places. -/
def Reports (fault : Spot → String → Prop) (problems : List Problem) : Prop :=
  ∃ found : List (Spot × String), problems = found.map (fun f => ⟨f.1.field, f.2⟩)
    ∧ found.Pairwise (fun f g => f.1.Before g.1)
    ∧ ∀ s message, (s, message) ∈ found ↔ fault s message

namespace Reports

variable {fault fault' : Spot → String → Prop} {problems problems' : List Problem}

/-- Where nothing is wrong, there is nothing to report. -/
theorem none (h : ∀ s message, ¬ fault s message) : Reports fault [] :=
  ⟨[], rfl, .nil, fun s message => iff_of_false List.not_mem_nil (h s message)⟩

/-- One fault is one problem. -/
theorem one {s : Spot} {message : String} (h : ∀ t m, fault t m ↔ t = s ∧ m = message) :
    Reports fault [⟨s.field, message⟩] :=
  ⟨[(s, message)], rfl, List.pairwise_singleton _ _, fun t m => by
    rw [List.mem_singleton, Prod.mk.injEq, h]⟩

/-- The same faults are reported alike. -/
theorem congr (h : Reports fault problems) (hsame : ∀ s message, fault s message ↔ fault' s message) :
    Reports fault' problems := by
  obtain ⟨found, hproblems, hordered, hmem⟩ := h
  exact ⟨found, hproblems, hordered, fun s message => (hmem s message).trans (hsame s message)⟩

/-- **Reports are put together** if the places of the one come before those of the other. -/
theorem append (h : Reports fault problems) (h' : Reports fault' problems')
    (hbefore : ∀ s m t n, fault s m → fault' t n → s.Before t) :
    Reports (fun s message => fault s message ∨ fault' s message) (problems ++ problems') := by
  obtain ⟨found, rfl, hordered, hmem⟩ := h
  obtain ⟨found', rfl, hordered', hmem'⟩ := h'
  refine ⟨found ++ found', List.map_append.symm,
    List.pairwise_append.2 ⟨hordered, hordered', fun f hf g hg => ?_⟩, fun s message => ?_⟩
  · exact hbefore _ _ _ _ ((hmem f.1 f.2).1 hf) ((hmem' g.1 g.2).1 hg)
  · rw [List.mem_append, hmem, hmem']

end Reports

/-! ## The order of places -/

/-- Endpoints come in their order, and the parts of one endpoint in theirs. -/
theorem endpoint_before {i j : Nat} {p q : EndpointPart} :
    (Spot.endpoint i p).Before (.endpoint j q) ↔ i < j ∨ i = j ∧ p.rank < q.rank := by
  show 1 :: i :: p.rank < 1 :: j :: q.rank ↔ _
  rw [List.cons_lt_cons_self, List.cons_lt_cons_iff]

/-- Operations come in their order, and the parts of one operation in theirs. -/
theorem operation_before {i j : Nat} {p q : OperationPart} :
    (Spot.operation i p).Before (.operation j q) ↔ i < j ∨ i = j ∧ p.rank < q.rank := by
  show 2 :: i :: p.rank < 2 :: j :: q.rank ↔ _
  rw [List.cons_lt_cons_self, List.cons_lt_cons_iff]

/-- Headers come in their order. -/
theorem header_rank_lt {j k : Nat} : (EndpointPart.header j).rank < (EndpointPart.header k).rank ↔ j < k := by
  show [2, j] < [2, k] ↔ _
  rw [List.cons_lt_cons_self, List.cons_lt_cons_iff]
  exact or_iff_left fun h => List.lt_irrefl _ h.2

/-! ## One entry -/

/-- **A name is reported** exactly if something is wrong with it. -/
theorem reports_name {s : Spot} {field : String} (hfield : s.field = s!"{field}.name") (kind : String)
    (earlier : List String) (name : String) :
    Reports (fun t message => t = s ∧ NameFault kind earlier name message)
      (nameProblems field kind earlier name) := by
  unfold nameProblems
  rw [← hfield]
  split
  next hblank =>
    refine .one (fun t m => and_congr_right fun _ => ⟨fun h => ?_, ?_⟩)
    · cases h with
      | blank => rfl
      | repeated filled => exact absurd hblank (Bool.eq_false_iff.1 filled)
    · rintro rfl
      exact .blank hblank
  next hfilled =>
    have hfilled : Text.isBlank name = false := Bool.eq_false_iff.2 hfilled
    split
    next hused =>
      refine .one (fun t m => and_congr_right fun _ => ⟨fun h => ?_, ?_⟩)
      · cases h with
        | blank hblank => exact absurd hblank (Bool.eq_false_iff.1 hfilled)
        | repeated => rfl
      · rintro rfl
        exact .repeated hfilled (List.contains_iff_mem.1 hused)
    next hnew =>
      refine .none (fun t m h => ?_)
      cases h.2 with
      | blank hblank => exact Bool.eq_false_iff.1 hfilled hblank
      | repeated _ hused => exact hnew (List.contains_iff_mem.2 hused)

/-- **What cannot be read is reported**, with the reason. -/
theorem reports_unread {ε α : Type} {s : Spot} (x : Except ε α) (say : ε → String)
    {problems : List Problem} (hread : ∀ a, x = .ok a → problems = [])
    (hunread : ∀ e, x = .error e → problems = [⟨s.field, say e⟩]) :
    Reports (fun t message => t = s ∧ ∃ reason, x = .error reason ∧ message = say reason)
      problems := by
  cases x with
  | ok a =>
    rw [hread a rfl]
    refine .none (fun t m => ?_)
    rintro ⟨-, reason, hreason, -⟩
    cases hreason
  | error e =>
    rw [hunread e rfl]
    refine .one (fun t m => and_congr_right fun _ => ⟨?_, ?_⟩)
    · rintro ⟨reason, hreason, rfl⟩
      rw [Except.error.inj hreason]
    · rintro rfl
      exact ⟨e, rfl, rfl⟩

/-- The path of a header, put together part by part. -/
theorem field_header (i j : Nat) : (Spot.endpoint i (.header j)).field
    = s!"endpoints[{i}]" ++ ".required_headers[" ++ toString j ++ "]" := by
  show s!"endpoints[{i}]" ++ (".required_headers[" ++ toString j ++ "]") = _
  simp only [String.append_assoc]

/-- **The headers that cannot be read are reported**, each with its number. -/
theorem reports_headers (i j : Nat) (headers : List String) :
    Reports (fun s message => ∃ k text, headers[k]? = some text ∧ s = .endpoint i (.header (j + k))
        ∧ ∃ reason, QualifiedName.parse text = .error reason ∧ message = reason.message)
      (headerProblems s!"endpoints[{i}]" j headers) := by
  induction headers generalizing j with
  | nil =>
    refine .none (fun s m => ?_)
    rintro ⟨k, text, hlisted, -⟩
    cases hlisted
  | cons header headers ih =>
    rw [headerProblems]
    refine ((reports_unread (s := .endpoint i (.header j)) (QualifiedName.parse header)
      MalformedName.message (fun a h => ?_) (fun e h => ?_)).append (ih (j + 1)) ?_).congr
      (fun s m => ⟨?_, ?_⟩)
    · rw [h]
    · rw [h, field_header]
      rfl
    · rintro s m t n ⟨rfl, -⟩ ⟨k, -, -, rfl, -⟩
      exact endpoint_before.2 (Or.inr ⟨rfl, header_rank_lt.2 (by omega)⟩)
    · rintro (⟨rfl, hreason⟩ | ⟨k, text, hlisted, rfl, hreason⟩)
      · exact ⟨0, header, rfl, rfl, hreason⟩
      · exact ⟨k + 1, text, hlisted, by rw [Nat.add_right_comm, Nat.add_assoc], hreason⟩
    · rintro ⟨_ | k, text, hlisted, rfl, hreason⟩
      · obtain rfl := Option.some.inj hlisted
        exact Or.inl ⟨rfl, hreason⟩
      · exact Or.inr ⟨k, text, hlisted, by rw [Nat.add_right_comm, Nat.add_assoc], hreason⟩

/-- **An endpoint is reported** by its parts: its name, its address, its headers. -/
theorem reports_endpoint (i : Nat) (earlier : List String) (e : EndpointConfig) :
    Reports (fun s message => ∃ part, s = .endpoint i part ∧ EndpointFault earlier e part message)
      (nameProblems s!"endpoints[{i}]" "endpoint" earlier e.name
        ++ addressProblems s!"endpoints[{i}]" e.address
        ++ headerProblems s!"endpoints[{i}]" 0 e.requiredHeaders) := by
  have hname := reports_name (s := .endpoint i .name) rfl "endpoint" earlier e.name
  have haddress : Reports (fun s message => s = .endpoint i .address
        ∧ ∃ reason, Address.parse e.address = .error reason ∧ message = reason.message)
      (addressProblems s!"endpoints[{i}]" e.address) := by
    unfold addressProblems
    refine reports_unread (Address.parse e.address) DispatchError.message (fun a h => ?_)
      (fun r h => ?_)
    · rw [h]
    · rw [h]
      rfl
  refine ((hname.append haddress ?_).append (reports_headers i 0 e.requiredHeaders) ?_).congr
    (fun s m => ⟨?_, ?_⟩)
  · rintro s m t n ⟨rfl, -⟩ ⟨rfl, -⟩
    exact endpoint_before.2 (Or.inr ⟨rfl, by decide⟩)
  · rintro s m t n (⟨rfl, -⟩ | ⟨rfl, -⟩) ⟨k, -, -, rfl, -⟩
    · exact endpoint_before.2 (Or.inr ⟨rfl, List.cons_lt_cons_iff.2 (Or.inl (by decide))⟩)
    · exact endpoint_before.2 (Or.inr ⟨rfl, List.cons_lt_cons_iff.2 (Or.inl (by decide))⟩)
  · rintro ((⟨rfl, hfault⟩ | ⟨rfl, reason, hreason, rfl⟩) | ⟨k, text, hlisted, rfl, reason, hreason, rfl⟩)
    · exact ⟨_, rfl, .name hfault⟩
    · exact ⟨_, rfl, .address hreason⟩
    · rw [Nat.zero_add]
      exact ⟨_, rfl, .header hlisted hreason⟩
  · rintro ⟨part, rfl, hfault⟩
    cases hfault with
    | name hfault => exact Or.inl (Or.inl ⟨rfl, hfault⟩)
    | address hreason => exact Or.inl (Or.inr ⟨rfl, _, hreason, rfl⟩)
    | header hlisted hreason =>
      exact Or.inr ⟨_, _, hlisted, by rw [Nat.zero_add], _, hreason, rfl⟩

/-- **An operation is reported** by its parts: its name, its template. -/
theorem reports_operation (i : Nat) (earlier : List String) (o : OperationConfig) :
    Reports (fun s message => ∃ part, s = .operation i part ∧ OperationFault earlier o part message)
      (nameProblems s!"templates[{i}]" "template" earlier o.name
        ++ templateProblems s!"templates[{i}]" o.template) := by
  have hname := reports_name (s := .operation i .name) rfl "template" earlier o.name
  have htemplate : Reports
      (fun s message => s = .operation i .template
        ∧ Text.isBlank o.template = true ∧ message = "must not be empty")
      (templateProblems s!"templates[{i}]" o.template) := by
    unfold templateProblems
    split
    next hblank =>
      exact .one (s := .operation i .template) fun t m =>
        and_congr_right fun _ => and_iff_right hblank
    next hfilled => exact .none fun t m h => hfilled h.2.1
  refine (hname.append htemplate ?_).congr (fun s m => ⟨?_, ?_⟩)
  · rintro s m t n ⟨rfl, -⟩ ⟨rfl, -⟩
    exact operation_before.2 (Or.inr ⟨rfl, by decide⟩)
  · rintro (⟨rfl, hfault⟩ | ⟨rfl, hblank, rfl⟩)
    · exact ⟨_, rfl, .name hfault⟩
    · exact ⟨_, rfl, .template hblank⟩
  · rintro ⟨part, rfl, hfault⟩
    cases hfault with
    | name hfault => exact Or.inl ⟨rfl, hfault⟩
    | template hblank => exact Or.inr ⟨rfl, hblank, rfl⟩

/-! ## Entry after entry -/

theorem NameFault.congr {kind name message : String} {earlier earlier' : List String}
    (hsame : ∀ n, n ∈ earlier ↔ n ∈ earlier') (h : NameFault kind earlier name message) :
    NameFault kind earlier' name message := by
  cases h with
  | blank hblank => exact .blank hblank
  | repeated hfilled hused => exact .repeated hfilled ((hsame name).1 hused)

theorem EndpointFault.congr {e : EndpointConfig} {part : EndpointPart} {message : String}
    {earlier earlier' : List String} (hsame : ∀ n, n ∈ earlier ↔ n ∈ earlier')
    (h : EndpointFault earlier e part message) : EndpointFault earlier' e part message := by
  cases h with
  | name hfault => exact .name (hfault.congr hsame)
  | address hunread => exact .address hunread
  | header hlisted hunread => exact .header hlisted hunread

theorem OperationFault.congr {o : OperationConfig} {part : OperationPart} {message : String}
    {earlier earlier' : List String} (hsame : ∀ n, n ∈ earlier ↔ n ∈ earlier')
    (h : OperationFault earlier o part message) : OperationFault earlier' o part message := by
  cases h with
  | name hfault => exact .name (hfault.congr hsame)
  | template hblank => exact .template hblank

/-- **Entries are reported one after another**, each with the names before it. This is said of any way of
checking entries that checks the first one and goes on with its name among the earlier ones, since
endpoints and operations are checked alike. -/
theorem reports_entries {α π : Type} (name : α → String) (spot : Nat → π → Spot)
    (fault : List String → α → π → String → Prop) {first : Nat → List String → α → List Problem}
    {all : Nat → List String → List α → List Problem}
    (hnil : ∀ i earlier, all i earlier [] = [])
    (hcons : ∀ i earlier a l,
      all i earlier (a :: l) = first i earlier a ++ all (i + 1) (name a :: earlier) l)
    (hspot : ∀ i j, i < j → ∀ p q, (spot i p).Before (spot j q))
    (hsame : ∀ earlier earlier', (∀ n, n ∈ earlier ↔ n ∈ earlier') →
      ∀ a p m, fault earlier a p m → fault earlier' a p m)
    (hfirst : ∀ i earlier a,
      Reports (fun s m => ∃ p, s = spot i p ∧ fault earlier a p m) (first i earlier a))
    (i : Nat) (earlier : List String) (l : List α) :
    Reports (fun s m => ∃ k a, l[k]? = some a
        ∧ ∃ p, s = spot (i + k) p ∧ fault (earlier ++ (l.take k).map name) a p m)
      (all i earlier l) := by
  induction l generalizing i earlier with
  | nil =>
    rw [hnil]
    refine .none (fun s m => ?_)
    rintro ⟨k, a, hlisted, -⟩
    cases hlisted
  | cons a l ih =>
    -- the name of the first entry stands before the earlier ones in the one list, and after them in the
    -- other
    have hmem : ∀ k n, n ∈ name a :: earlier ++ (l.take k).map name
        ↔ n ∈ earlier ++ ((a :: l).take (k + 1)).map name := by
      intro k n
      rw [List.take_succ_cons, List.map_cons]
      exact List.perm_middle.symm.mem_iff
    have hindex : ∀ k, i + 1 + k = i + (k + 1) := fun k => by omega
    rw [hcons]
    refine ((hfirst i earlier a).append (ih (i + 1) (name a :: earlier)) ?_).congr
      (fun s m => ⟨?_, ?_⟩)
    · rintro s m t n ⟨p, rfl, -⟩ ⟨k, -, -, q, rfl, -⟩
      exact hspot _ _ (by omega) p q
    · rintro (⟨p, rfl, hfault⟩ | ⟨k, b, hlisted, p, rfl, hfault⟩)
      · refine ⟨0, a, rfl, p, rfl, ?_⟩
        rwa [List.take_zero, List.map_nil, List.append_nil]
      · exact ⟨k + 1, b, hlisted, p, by rw [hindex], hsame _ _ (hmem k) _ _ _ hfault⟩
    · rintro ⟨_ | k, b, hlisted, p, rfl, hfault⟩
      · obtain rfl := Option.some.inj hlisted
        rw [List.take_zero, List.map_nil, List.append_nil] at hfault
        exact Or.inl ⟨p, rfl, hfault⟩
      · exact Or.inr ⟨k, b, hlisted, p, by rw [hindex],
          hsame _ _ (fun n => (hmem k n).symm) _ _ _ hfault⟩

theorem reports_endpoints (es : List EndpointConfig) :
    Reports (fun s m => ∃ i e, es[i]? = some e
        ∧ ∃ part, s = .endpoint i part
          ∧ EndpointFault ((es.take i).map EndpointConfig.name) e part m)
      (endpointProblems 0 [] es) := by
  have h := reports_entries EndpointConfig.name .endpoint EndpointFault
    (fun i earlier => (rfl : endpointProblems i earlier [] = [])) (fun _ _ _ _ => rfl)
    (fun i j hij p q => endpoint_before.2 (Or.inl hij)) (fun _ _ hsame _ _ _ => EndpointFault.congr hsame)
    reports_endpoint 0 [] es
  simpa only [Nat.zero_add, List.nil_append] using h

theorem reports_operations (os : List OperationConfig) :
    Reports (fun s m => ∃ i o, os[i]? = some o
        ∧ ∃ part, s = .operation i part
          ∧ OperationFault ((os.take i).map OperationConfig.name) o part m)
      (operationProblems 0 [] os) := by
  have h := reports_entries OperationConfig.name .operation OperationFault
    (fun i earlier => (rfl : operationProblems i earlier [] = [])) (fun _ _ _ _ => rfl)
    (fun i j hij p q => operation_before.2 (Or.inl hij)) (fun _ _ hsame _ _ _ => OperationFault.congr hsame)
    reports_operation 0 [] os
  simpa only [Nat.zero_add, List.nil_append] using h

/-! ## Paths tell places apart -/

/-- A written number holds no bracket. -/
theorem bracket_not_mem_toString (n : Nat) : ']' ∉ (toString n).toList := by
  intro hmem
  rw [Nat.toString_eq_ofList_toDigits, String.toList_ofList] at hmem
  exact absurd (Nat.isDigit_of_mem_toDigits (by decide) (by decide) hmem) (by decide)

/-- A number is read back from its digits. -/
theorem eq_of_toString_eq {m n : Nat} (h : toString m = toString n) : m = n := by
  have hread := congrArg (fun f : String => Nat.ofDigitChars 10 f.toList 0) h
  simpa [Nat.toString_eq_ofList_toDigits] using hread

theorem cut?_numbered (n : Nat) (cs : List Char) :
    Text.cut? ']' ((toString n).toList ++ ("]".toList ++ cs)) = some ((toString n).toList, cs) :=
  Text.cut?_eq_some_iff.2 ⟨rfl, bracket_not_mem_toString n⟩

/-- **A number in brackets can be read back**, with the text behind it. -/
theorem numbered_inj {start : String} {m n : Nat} {a b : String}
    (h : start ++ toString m ++ "]" ++ a = start ++ toString n ++ "]" ++ b) : m = n ∧ a = b := by
  rw [← String.toList_inj] at h
  simp only [String.toList_append, List.append_assoc] at h
  have hcut := congrArg (Text.cut? ']') (List.append_cancel_left h)
  rw [cut?_numbered, cut?_numbered, Option.some.injEq, Prod.mk.injEq, String.toList_inj,
    String.toList_inj] at hcut
  exact ⟨eq_of_toString_eq hcut.1, hcut.2⟩

/-- The first letter of the path of a part. -/
def EndpointPart.initial : EndpointPart → Char
  | .name => 'n'
  | .address => 'a'
  | .header _ => 'r'

theorem EndpointPart.getElem?_field (p : EndpointPart) : p.field.toList[1]? = some p.initial := by
  cases p with
  | name => rfl
  | address => rfl
  | header j =>
    show (".required_headers[" ++ toString j ++ "]").toList[1]? = some 'r'
    simp

theorem EndpointPart.field_inj {p q : EndpointPart} (h : p.field = q.field) : p = q := by
  have hinitial : p.initial = q.initial := by
    rw [← Option.some.injEq, ← getElem?_field, ← getElem?_field, h]
  cases p <;> cases q
  case name.name => rfl
  case address.address => rfl
  case header.header j k =>
    have hwritten : ".required_headers[" ++ toString j ++ "]"
        = ".required_headers[" ++ toString k ++ "]" := h
    have hnumbered : j = k ∧ "" = "" := numbered_inj (congrArg (fun f => f ++ "") hwritten)
    rw [hnumbered.1]
  all_goals simp [initial] at hinitial

theorem OperationPart.field_inj {p q : OperationPart} (h : p.field = q.field) : p = q := by
  cases p <;> cases q
  case name.name => rfl
  case template.template => rfl
  all_goals exact absurd h (by decide)

/-- The first letter of a path. -/
def Spot.initial : Spot → Char
  | .metricsAddress => 'o'
  | .endpoint _ _ => 'e'
  | .operation _ _ => 't'

theorem Spot.head?_field (s : Spot) : s.field.toList.head? = some s.initial := by
  cases s with
  | metricsAddress => rfl
  | endpoint i part =>
    show ("endpoints[" ++ toString i ++ "]" ++ part.field).toList.head? = some 'e'
    simp
  | operation i part =>
    show ("templates[" ++ toString i ++ "]" ++ part.field).toList.head? = some 't'
    simp

/-- **The path of a place is the path of no other one.** -/
theorem Spot.field_inj {s t : Spot} (h : s.field = t.field) : s = t := by
  have hinitial : s.initial = t.initial := by
    rw [← Option.some.injEq, ← head?_field, ← head?_field, h]
  cases s <;> cases t
  case metricsAddress.metricsAddress => rfl
  case endpoint.endpoint i p j q =>
    obtain ⟨rfl, hpart⟩ := numbered_inj h
    rw [EndpointPart.field_inj hpart]
  case operation.operation i p j q =>
    obtain ⟨rfl, hpart⟩ := numbered_inj h
    rw [OperationPart.field_inj hpart]
  all_goals simp [initial] at hinitial

/-- Reported problems have different paths. -/
theorem Reports.nodup_fields {fault : Spot → String → Prop} {problems : List Problem}
    (h : Reports fault problems) : (problems.map Problem.field).Nodup := by
  obtain ⟨found, rfl, hordered, -⟩ := h
  rw [List.map_map, List.Nodup, List.pairwise_map]
  refine hordered.imp (fun {f g} hbefore hsame => ?_)
  rw [Spot.Before, Spot.field_inj hsame] at hbefore
  exact List.lt_irrefl _ hbefore

/-- There is nothing to report exactly where nothing is wrong. -/
theorem Reports.eq_nil_iff {fault : Spot → String → Prop} {problems : List Problem}
    (h : Reports fault problems) : problems = [] ↔ ∀ s message, ¬ fault s message := by
  obtain ⟨found, rfl, -, hmem⟩ := h
  rw [List.map_eq_nil_iff, List.eq_nil_iff_forall_not_mem, Prod.forall]
  simp only [hmem]

/-! ## The configuration -/

theorem reports_metrics (c : MetricsConfig) :
    Reports (fun s m => s = .metricsAddress ∧ (c.enabled = true ∧ SocketAddress.isWritten c.address = false)
        ∧ m = s!"'{c.address}' is not a socket address")
      (metricsProblems c) := by
  unfold metricsProblems
  split
  next hfault =>
    rw [Bool.and_eq_true, Bool.not_eq_true'] at hfault
    exact .one (s := .metricsAddress) fun t m => and_congr_right fun _ => and_iff_right hfault
  next hfine =>
    rw [Bool.and_eq_true, Bool.not_eq_true'] at hfine
    exact .none fun t m h => hfine h.2.1

/-- **A check reports every fault of a configuration, and nothing else.** For every configuration, the
problems are what is wrong with it (`Fault`), in the order of the places and each place once: the metrics
address, if metrics are offered there and it is no socket address; of each endpoint, in their order, its
name if it is blank or that of an endpoint before it, its address if it cannot be read, and each header
that cannot be read; of each operation, in their order, its name if it is blank or that of an operation
before it, and its template if that is blank. No two problems have one path, so each carries the numbers of
its own place. There are no problems exactly if nothing is wrong. And the problems of endpoints and those
of operations have nothing to do with each other. -/
theorem problems_report_faults (c : Config) :
    Reports (Fault c) c.problems
      ∧ (c.problems.map Problem.field).Nodup
      ∧ (c.problems = [] ↔ ∀ s message, ¬ Fault c s message)
      ∧ c.problems = ({ c with operations := [] } : Config).problems
          ++ ({ operations := c.operations } : Config).problems := by
  have hreports : Reports (Fault c) c.problems := by
    refine (((reports_metrics c.metrics).append (reports_endpoints c.endpoints) ?_).append
      (reports_operations c.operations) ?_).congr (fun s m => ⟨?_, ?_⟩)
    · rintro s m t n ⟨rfl, -⟩ ⟨i, e, -, p, rfl, -⟩
      exact List.cons_lt_cons_iff.2 (Or.inl Nat.zero_lt_one)
    · rintro s m t n (⟨rfl, -⟩ | ⟨i, e, -, p, rfl, -⟩) ⟨j, o, -, q, rfl, -⟩
      · exact List.cons_lt_cons_iff.2 (Or.inl Nat.zero_lt_two)
      · exact List.cons_lt_cons_iff.2 (Or.inl Nat.one_lt_two)
    · rintro ((⟨rfl, ⟨hoffered, hunwritten⟩, rfl⟩ | ⟨i, e, hlisted, p, rfl, hfault⟩)
        | ⟨i, o, hlisted, p, rfl, hfault⟩)
      · exact .metricsAddress hoffered hunwritten
      · exact .endpoint hlisted hfault
      · exact .operation hlisted hfault
    · intro hfault
      cases hfault with
      | metricsAddress hoffered hunwritten => exact Or.inl (Or.inl ⟨rfl, ⟨hoffered, hunwritten⟩, rfl⟩)
      | endpoint hlisted hfault => exact Or.inl (Or.inr ⟨_, _, hlisted, _, rfl, hfault⟩)
      | operation hlisted hfault => exact Or.inr ⟨_, _, hlisted, _, rfl, hfault⟩
  refine ⟨hreports, hreports.nodup_fields, hreports.eq_nil_iff, ?_⟩
  show _ = (metricsProblems c.metrics ++ endpointProblems 0 [] c.endpoints ++ []) ++ _
  rw [List.append_nil]
  rfl

/-- The second endpoint has a name that was used, an address that is none and a header that is none, and
each is reported; the blank name of the third is no name that was used. -/
example :
    let c : Config :=
      { metrics := { enabled := true, address := "nowhere" }
        endpoints := [⟨"orders", "http://host/orders", true, ["\x7bns\x7dA"]⟩,
          ⟨"orders", "not a uri", true, ["To", "\x7bns"]⟩, ⟨" ", "http://host/x", true, []⟩]
        operations := [⟨"orders", "/a"⟩, ⟨"orders", " "⟩] }
    c.problems.map Problem.field = ["observability.metrics_address", "endpoints[1].name",
      "endpoints[1].address", "endpoints[1].required_headers[1]", "endpoints[2].name",
      "templates[1].name", "templates[1].template"] := by
  decide +kernel

end Switchboard.Config
