import Switchboard.Proofs.Calls
import Switchboard.Proofs.Refusals

/-!
# The metrics tell what was replied

Counting happens at many places: where a registration is taken, where it is refused, where a set is
emptied, where a request finds nothing and never reaches a group. Read from the outside there is one
rule, and the replies alone decide it. A registration that is carried out is one more registration.
A call that asks is one more request, under *miss*, *hit* or *multiple* by the number of answers that
its reply tells of, also where one answer was asked for and the reply is that there are several. A
template refused as ambiguous is one more conflict. Nothing else is counted.

`AddressTable.metrics_call` and `TemplateTable.metrics_call` state the rule for one call, as an
equation for all metrics after it. What one call adds by its reply, a run adds by its replies
(`runAllM_count`), so that after a run every counter is the number of replies of its kind
(`Tally.Agrees`).

The gauge is different, since it shows a state and no number of events. Whenever a call changes the
address table it is set to the number of sets that are left, and no other call changes either of the
two. So once it is set, it shows the table as it is.
-/

namespace Switchboard

/-! ## Replies -/

namespace Reply

variable {A : Type}

/-- Whether a call was carried out that removes nothing and asks for nothing. -/
def isDone : Reply A → Bool
  | .done => true
  | _ => false

/-- Whether templates could not be told apart. -/
def isConflict : Reply A → Bool
  | .refused e => e.isConflict
  | _ => false

/-- **The number of answers** that a reply to a request tells of. A refusal to choose among several
tells of them too. -/
def answers? : Reply A → Option Nat
  | .found answers => some answers.length
  | .one none => some 0
  | .one (some _) => some 1
  | .refused (.multipleMatches count) => some count
  | _ => none

/-- **Whether a reply is one that is never counted**: the template or the filter is not one for the
table, an equal filter is registered, or there was nothing to remove. -/
def isUncounted : Reply A → Bool
  | .refused (.format _ _) => true
  | .refused (.wrongKind _ _) => true
  | .refused (.duplicateFilter _) => true
  | .removed something => !something
  | _ => false

/-- The reply to a request for at most one answer tells of all that were found. -/
theorem answers?_single (found : List A) :
    (ofSingle (single found)).answers? = some found.length := by
  match found with
  | [] => rfl
  | [_] => rfl
  | _ :: _ :: _ => rfl

/-- A request for at most one answer changes nothing. -/
theorem changes_ofSingle (answer : Except DispatchError (Option A)) :
    (ofSingle answer).changes = false := by
  cases answer with
  | ok a => rfl
  | error e => rfl

/-- A reply that is never counted says that nothing was changed, registered or found. -/
theorem silent_of_isUncounted {reply : Reply A} (h : reply.isUncounted = true) :
    reply.changes = false ∧ reply.isDone = false ∧ reply.isConflict = false
      ∧ reply.answers? = none := by
  cases reply with
  | refused reason => cases reason <;> simp_all [isUncounted, changes, isDone, isConflict, answers?,
      DispatchError.isConflict]
  | removed something => simp_all [isUncounted, changes, isDone, isConflict, answers?]
  | _ => cases h

end Reply

/-- Whether a call registers something. -/
def AddressCall.registers {P : Type} : AddressCall P → Bool
  | .add _ _ => true
  | .addFilter _ _ => true
  | _ => false

/-- Whether a call asks for answers. -/
def AddressCall.asks {P : Type} : AddressCall P → Bool
  | .request _ => true
  | .single _ => true
  | _ => false

/-- Whether a call registers something. -/
def TemplateCall.registers {P : Type} : TemplateCall P → Bool
  | .add _ _ => true
  | .addFilter _ _ => true
  | _ => false

/-- Whether a call asks for answers. -/
def TemplateCall.asks {P : Type} : TemplateCall P → Bool
  | .request _ _ => true
  | .requestOf _ => true
  | .single _ _ => true
  | _ => false

/-! ## What one reply adds -/

namespace Tally

variable {A κ : Type}

/-- A request put down under the number of answers that a reply tells of. -/
def asked (t : Tally) (reply : Reply A) : Tally :=
  (reply.answers?.map fun n => t.requested (.ofCount n)).getD t

/-- **What is counted for a table after a reply**, to a call that registers or asks. -/
def told (t : Tally) (registers asks : Bool) (reply : Reply A) : Tally :=
  let t := if registers && reply.isDone then t.registered else t
  if asks then t.asked reply else t

/-- **A tally agrees with what was replied**: each counter is the number of calls of a kind that got a
reply of a kind. -/
structure Agrees (t : Tally) (registers asks : κ → Bool) (log : List (κ × Reply A)) : Prop where
  /-- The registrations that were carried out. -/
  registrations : t.registrations = log.countP fun x => registers x.1 && x.2.isDone
  /-- The requests without an answer. -/
  misses : t.misses = log.countP fun x => asks x.1 && x.2.answers? == some 0
  /-- The requests with one answer. -/
  hits : t.hits = log.countP fun x => asks x.1 && x.2.answers? == some 1
  /-- The requests with several answers. -/
  multiples : t.multiples = log.countP fun x => asks x.1 && x.2.answers?.any (2 ≤ ·)
  /-- Every request is under one of the three. -/
  requests : t.misses + t.hits + t.multiples = log.countP fun x => asks x.1

variable (t : Tally) (registers asks : Bool) (reply : Reply A)

/-- A request raises one of its three counters by one. -/
theorem requested_ofCount (n : Nat) :
    t.requested (.ofCount n) = { t with
      misses := t.misses + if n = 0 then 1 else 0
      hits := t.hits + if n = 1 then 1 else 0
      multiples := t.multiples + if 2 ≤ n then 1 else 0 } := by
  match n with
  | 0 => rfl
  | 1 => rfl
  | n + 2 => simp [Outcome.ofCount, requested]

/-- A reply that is never counted adds nothing. -/
theorem told_of_isUncounted {reply : Reply A} (h : reply.isUncounted = true) :
    t.told registers asks reply = t := by
  obtain ⟨-, hdone, -, hanswers⟩ := Reply.silent_of_isUncounted h
  unfold told asked
  rw [hdone, hanswers, Bool.and_false]
  exact ite_self t

/-- What a reply adds to each counter. -/
theorem told_eq :
    t.told registers asks reply = {
      registrations := t.registrations + if registers && reply.isDone then 1 else 0
      misses := t.misses + if asks && reply.answers? == some 0 then 1 else 0
      hits := t.hits + if asks && reply.answers? == some 1 then 1 else 0
      multiples := t.multiples + if asks && reply.answers?.any (2 ≤ ·) then 1 else 0 } := by
  unfold told asked
  cases registers && reply.isDone <;> cases asks <;> cases reply.answers? <;>
    simp [registered, requested_ofCount]

end Tally

/-! ## What a run adds -/

section Runs

variable {σ κ ρ : Type} {call : σ → κ → Metered (ρ × σ)}

/-- A run of calls is the first call and a run of the others. -/
theorem runAllM_cons (s : σ) (c : κ) (cs : List κ) (m : Metrics) :
    let first := (call s c).run m
    let rest := (runAllM call first.1.2 cs).run first.2
    (runAllM call s (c :: cs)).run m = ((first.1.1 :: rest.1.1, rest.1.2), rest.2) := rfl

/-- What is made of an answer counts nothing. -/
theorem Metered.metrics_bind_pure {α β : Type} (x : Metered α) (f : α → β) (m : Metrics) :
    ((x >>= fun a => pure (f a)).run m).2 = (x.run m).2 := rfl

/-- **What each call adds by its reply, a run adds by its replies.** -/
theorem runAllM_count (f : Metrics → Nat) (p : κ → ρ → Bool)
    (hstep : ∀ s c m, f ((call s c).run m).2
      = f m + if p c ((call s c).run m).1.1 then 1 else 0)
    (s : σ) (cs : List κ) (m : Metrics) :
    f ((runAllM call s cs).run m).2
      = f m + (cs.zip ((runAllM call s cs).run m).1.1).countP fun x => p x.1 x.2 := by
  induction cs generalizing s m with
  | nil => rfl
  | cons c cs ih =>
    rw [runAllM_cons]
    dsimp only
    rw [List.zip_cons_cons, List.countP_cons, ih, hstep]
    dsimp only
    omega

/-- **What every call preserves of the state and the metrics, every run preserves.** -/
theorem runAllM_preserves {I : σ → Metrics → Prop}
    (hstep : ∀ s c m, I s m → I ((call s c).run m).1.2 ((call s c).run m).2)
    {s : σ} {m : Metrics} (h : I s m) (cs : List κ) :
    I ((runAllM call s cs).run m).1.2 ((runAllM call s cs).run m).2 := by
  induction cs generalizing s m with
  | nil => exact h
  | cons c cs ih => exact ih (hstep s c m h)

/-- **A tally that follows the replies call by call agrees with all of them after a run.** -/
theorem Tally.agrees_run {A : Type} {call : σ → κ → Metered (Reply A × σ)} (f : Metrics → Tally)
    {registers asks : κ → Bool}
    (hstep : ∀ s c m, f ((call s c).run m).2
      = (f m).told (registers c) (asks c) ((call s c).run m).1.1)
    (hasks : ∀ s c m, asks c = true → ((call s c).run m).1.1.answers?.isSome)
    {m : Metrics} (hm : f m = {}) (s : σ) (cs : List κ) :
    (f ((runAllM call s cs).run m).2).Agrees registers asks
      (cs.zip ((runAllM call s cs).run m).1.1) := by
  have hcount : ∀ (g : Tally → Nat) (p : κ → Reply A → Bool), g {} = 0
      → (∀ t c reply, (asks c = true → reply.answers?.isSome)
          → g (Tally.told t (registers c) (asks c) reply) = g t + if p c reply then 1 else 0)
      → g (f ((runAllM call s cs).run m).2)
          = (cs.zip ((runAllM call s cs).run m).1.1).countP fun x => p x.1 x.2 := by
    intro g p hzero hp
    have hcall : ∀ s c m, (g ∘ f) ((call s c).run m).2
        = (g ∘ f) m + if p c ((call s c).run m).1.1 then 1 else 0 := by
      intro s c m
      show g (f _) = g (f m) + _
      rw [hstep, hp _ _ _ (hasks s c m)]
    simpa [hm, hzero] using runAllM_count (g ∘ f) p hcall s cs m
  refine ⟨hcount Tally.registrations (fun c reply => registers c && reply.isDone) rfl ?_,
    hcount Tally.misses (fun c reply => asks c && reply.answers? == some 0) rfl ?_,
    hcount Tally.hits (fun c reply => asks c && reply.answers? == some 1) rfl ?_,
    hcount Tally.multiples (fun c reply => asks c && reply.answers?.any (2 ≤ ·)) rfl ?_,
    hcount (fun t => t.misses + t.hits + t.multiples) (fun c _ => asks c) rfl ?_⟩
  · exact fun t c reply _ => congrArg Tally.registrations (told_eq t _ _ reply)
  · exact fun t c reply _ => congrArg Tally.misses (told_eq t _ _ reply)
  · exact fun t c reply _ => congrArg Tally.hits (told_eq t _ _ reply)
  · exact fun t c reply _ => congrArg Tally.multiples (told_eq t _ _ reply)
  · -- the three kinds of requests exclude each other and leave out none
    intro t c reply hsome
    rw [told_eq]
    dsimp only
    cases hc : asks c with
    | false => rfl
    | true =>
      obtain ⟨n, hn⟩ := Option.isSome_iff_exists.1 (hsome hc)
      match n with
      | 0 => simp [hn]; omega
      | 1 => simp [hn]; omega
      | n + 2 => simp [hn]; omega

end Runs

/-! ## The address table -/

namespace AddressTable

variable {P : Type}

/-- **A call that says that it changed nothing changes nothing.** -/
theorem answer_of_unchanged (t : AddressTable P) (c : AddressCall P)
    (h : (t.answer c).1.changes = false) : (t.answer c).2 = t := by
  cases c with
  | add f payload => exact Reply.ofAdd_of_not_changes h
  | addFilter f payload => exact Reply.ofAdd_of_not_changes h
  | remove f => exact Reply.ofRemove_of_not_changes h
  | removeFilter f => exact Reply.ofRemove_of_not_changes h
  | clear => cases h
  | request r => rfl
  | single r => rfl

/-- What a registration adds to the metrics. -/
theorem metrics_addM (t : AddressTable P) (f : AddressFilter) (payload : P) (m : Metrics) :
    ((t.addM f payload).run m).2 = { m with
      address := m.address.told true false (Reply.ofAdd (A := P) t (t.add f payload)).1
      candidateSets :=
        if (Reply.ofAdd (A := P) t (t.add f payload)).1.changes then
          some (Reply.ofAdd (A := P) t (t.add f payload)).2.setCount
        else m.candidateSets } := by
  unfold addM
  cases t.add f payload with
  | error e => rfl
  | ok t' => rfl

/-- What a removal adds to the metrics. -/
theorem metrics_removeM (t : AddressTable P) (f : AddressFilter) (m : Metrics) :
    ((t.removeM f).run m).2 = { m with
      candidateSets :=
        if (Reply.ofRemove (A := P) t (.ok (t.remove? f))).1.changes then
          some (Reply.ofRemove (A := P) t (.ok (t.remove? f))).2.setCount
        else m.candidateSets } := by
  unfold removeM
  cases t.remove? f with
  | none => rfl
  | some t' => rfl

/-- **The metrics after a call**: the reply is counted, and the gauge shows the table if the call
changed it. -/
theorem metrics_call (t : AddressTable P) (c : AddressCall P) (m : Metrics) :
    ((t.call c).run m).2 = { m with
      address := m.address.told c.registers c.asks (t.answer c).1
      candidateSets :=
        if (t.answer c).1.changes then some (t.answer c).2.setCount else m.candidateSets } := by
  cases c with
  | add f payload => exact metrics_addM t f payload m
  | addFilter f payload =>
    cases f with
    | prefixAddress f => exact metrics_addM t f payload m
    | exactAddress f => rfl
    | template text => rfl
  | remove f => exact metrics_removeM t f m
  | removeFilter f =>
    cases f with
    | prefixAddress f => exact metrics_removeM t f m
    | exactAddress f => rfl
    | template text => rfl
  | clear => rfl
  | request r =>
    rw [call, Metered.metrics_bind_pure, run_matchM, answer]
    rfl
  | single r =>
    -- the reply tells of all answers that were found, and these are what was counted
    rw [call, Metered.metrics_bind_pure, matchSingleM, Metered.metrics_bind_pure, run_matchM]
    show m.requested .address (t.matching r).length = { m with
      address := m.address.told false true (Reply.ofSingle (Switchboard.single (t.matching r)))
      candidateSets :=
        if (Reply.ofSingle (Switchboard.single (t.matching r))).changes then some t.setCount
        else m.candidateSets }
    unfold Tally.told Tally.asked
    rw [Reply.answers?_single, Reply.changes_ofSingle]
    rfl

/-- The reply to a call that asks tells of a number of answers. -/
theorem isSome_answers? (t : AddressTable P) {c : AddressCall P} (h : c.asks = true) :
    (t.answer c).1.answers?.isSome := by
  cases c with
  | request r => rfl
  | single r =>
    show (Reply.ofSingle (Switchboard.single (t.matching r))).answers?.isSome = true
    rw [Reply.answers?_single]
    rfl
  | _ => cases h

/-- **A call whose reply is never counted** leaves all metrics as they are. -/
theorem metrics_of_isUncounted (t : AddressTable P) {c : AddressCall P} (m : Metrics)
    (h : (t.answer c).1.isUncounted = true) : ((t.call c).run m).2 = m := by
  obtain ⟨hchanges, -⟩ := Reply.silent_of_isUncounted h
  rw [metrics_call, Tally.told_of_isUncounted _ _ _ h, hchanges]
  rfl

/-- **Once the gauge is set, it shows the table**: a call that changes the one sets the other. -/
theorem gauge_call (t : AddressTable P) (c : AddressCall P) (m : Metrics)
    (h : ∀ n, m.candidateSets = some n → n = t.setCount) :
    ∀ n, ((t.call c).run m).2.candidateSets = some n → n = (t.answer c).2.setCount := by
  intro n hn
  rw [metrics_call] at hn
  dsimp only at hn
  cases hchanges : (t.answer c).1.changes with
  | true =>
    rw [hchanges] at hn
    exact (Option.some.inj hn).symm
  | false =>
    rw [hchanges] at hn
    rw [answer_of_unchanged t c hchanges]
    exact h n hn

end AddressTable

/-! ## The template table -/

namespace TemplateTable

variable {P : Type}

/-- What a registration adds to the metrics. -/
theorem metrics_addM (t : TemplateTable P) (text : String) (payload : P) (m : Metrics) :
    ((t.addM text payload).run m).2 = { m with
      template := m.template.told true false
        (Reply.ofAdd (A := TemplateMatch P) t (t.add text payload)).1
      conflicts := m.conflicts
        + if (Reply.ofAdd (A := TemplateMatch P) t (t.add text payload)).1.isConflict then 1
          else 0 } := by
  unfold addM
  cases hcompile : Template.compile text with
  | error e =>
    -- the text is refused for its format, which is no conflict
    obtain ⟨fault, rfl⟩ := Template.eq_format_of_compile hcompile
    unfold add
    rw [hcompile]
    rfl
  | ok template =>
    rw [add_of_compile hcompile]
    dsimp only
    cases hadd : t.addTemplate template payload with
    | error e =>
      obtain ⟨first, second, why, rfl⟩ := exists_conflict_of_addTemplate hadd
      rfl
    | ok t' => rfl

/-- **The metrics after a call**: the reply is counted, and so is a conflict. -/
theorem metrics_call (t : TemplateTable P) (c : TemplateCall P) (m : Metrics) :
    ((t.call c).run m).2 = { m with
      template := m.template.told c.registers c.asks (t.answer c).1
      conflicts := m.conflicts
        + if c.registers && (t.answer c).1.isConflict then 1 else 0 } := by
  cases c with
  | add text payload =>
    rw [call, Metered.metrics_bind_pure, metrics_addM, answer]
    simp only [TemplateCall.registers, TemplateCall.asks, Bool.true_and]
  | addFilter f payload =>
    rw [call, Metered.metrics_bind_pure, addFilterM, answer]
    cases hf : f.forTemplates with
    | ok text =>
      dsimp only [bind, Except.bind]
      refine (metrics_addM t text payload m).trans ?_
      simp only [TemplateCall.registers, TemplateCall.asks, Bool.true_and]
    | error e =>
      obtain ⟨kind, rfl⟩ : ∃ kind, e = .wrongKind kind MessageFilter.templateTable := by
        cases f <;> cases hf <;> exact ⟨_, rfl⟩
      rfl
  | remove text =>
    show m = _
    simp [TemplateCall.registers, TemplateCall.asks, Tally.told]
  | removeFilter f =>
    show m = _
    simp [TemplateCall.registers, TemplateCall.asks, Tally.told]
  | clear => rfl
  | request path query =>
    rw [call, Metered.metrics_bind_pure, run_matchM, answer]
    rfl
  | requestOf r =>
    rw [call, Metered.metrics_bind_pure, matchRequestM, run_matchM, answer]
    rfl
  | single path query =>
    rw [call, Metered.metrics_bind_pure, matchSingleM, Metered.metrics_bind_pure, run_matchM]
    show m.requested .template (t.matching path query).length = { m with
      template := m.template.told false true
        (Reply.ofSingle (Switchboard.single (t.matching path query)))
      conflicts := m.conflicts }
    unfold Tally.told Tally.asked
    rw [Reply.answers?_single]
    rfl

/-- The reply to a call that asks tells of a number of answers. -/
theorem isSome_answers? (t : TemplateTable P) {c : TemplateCall P} (h : c.asks = true) :
    (t.answer c).1.answers?.isSome := by
  cases c with
  | request path query => rfl
  | requestOf r => rfl
  | single path query =>
    show (Reply.ofSingle (Switchboard.single (t.matching path query))).answers?.isSome = true
    rw [Reply.answers?_single]
    rfl
  | _ => cases h

/-- **A call whose reply is never counted** leaves all metrics as they are. -/
theorem metrics_of_isUncounted (t : TemplateTable P) {c : TemplateCall P} (m : Metrics)
    (h : (t.answer c).1.isUncounted = true) : ((t.call c).run m).2 = m := by
  obtain ⟨-, -, hconflict, -⟩ := Reply.silent_of_isUncounted h
  rw [metrics_call, Tally.told_of_isUncounted _ _ _ h, hconflict, Bool.and_false]
  rfl

/-- A path outside the base path is a request without an answer. -/
theorem matchM_of_outside (t : TemplateTable P) {path : String}
    (h : below t.basePath (Path.decodedSegments path) = none) (query : Query) (m : Metrics) :
    (t.matchM path query).run m = ([], m.requested .template 0) := by
  unfold matchM
  rw [h]
  rfl

end TemplateTable

/-! ## Every run -/

/-- **Metrics agree with the answers given.** After a run on an empty address table, and after a run
on an empty template table, each counter of the table is the number of calls that got a reply of its
kind, and every request is counted exactly once; the counts of the other table are untouched. The
gauge, once set, shows the number of sets of the address table, and conflicts are the registrations
refused as such. A further call whose reply is never counted leaves all metrics as they are, and a
path outside the base path counts as a miss. -/
theorem run_counted {P : Type} :
    (∀ (lookup : HostLookup) (calls : List (AddressCall P)),
        let served := ((AddressTable.empty lookup : AddressTable P).run calls).run {}
        let m := served.2
        m.address.Agrees AddressCall.registers AddressCall.asks (calls.zip served.1.1)
          ∧ m = { address := m.address, candidateSets := m.candidateSets }
          ∧ (∀ n, m.candidateSets = some n → n = served.1.2.setCount)
          ∧ ∀ c, (served.1.2.answer c).1.isUncounted = true → ((served.1.2.call c).run m).2 = m)
      ∧ ∀ (dup : Bool) (base : Option String) (calls : List (TemplateCall P)),
          let served := ((TemplateTable.empty dup base : TemplateTable P).run calls).run {}
          let m := served.2
          m.template.Agrees TemplateCall.registers TemplateCall.asks (calls.zip served.1.1)
            ∧ m.conflicts = (calls.zip served.1.1).countP (fun x => x.1.registers && x.2.isConflict)
            ∧ m = { template := m.template, conflicts := m.conflicts }
            ∧ (∀ path query,
                TemplateTable.below served.1.2.basePath (Path.decodedSegments path) = none
                  → (served.1.2.matchM path query).run m = ([], m.requested .template 0))
            ∧ ∀ c, (served.1.2.answer c).1.isUncounted = true
                → ((served.1.2.call c).run m).2 = m := by
  refine ⟨fun lookup calls => ?_, fun dup base calls => ?_⟩
  · intro served m
    have hreply : ∀ (t : AddressTable P) c m, ((t.call c).run m).1 = t.answer c :=
      fun t c m => t.result_call c m
    refine ⟨?_, ?_, ?_, fun c => AddressTable.metrics_of_isUncounted _ m⟩
    · refine Tally.agrees_run Metrics.address (fun t c m => ?_) (fun t c m h => ?_) rfl _ calls
      · rw [AddressTable.metrics_call, hreply]
      · rw [hreply]
        exact t.isSome_answers? h
    · refine runAllM_preserves (I := fun _ m =>
        m = { address := m.address, candidateSets := m.candidateSets }) (fun t c m h => ?_) rfl calls
      rw [AddressTable.metrics_call, h]
    · refine runAllM_preserves (I := fun (t : AddressTable P) m =>
        ∀ n, m.candidateSets = some n → n = t.setCount) (fun t c m h => ?_)
        (fun n hn => absurd hn (Option.some_ne_none n).symm) calls
      rw [hreply]
      exact t.gauge_call c m h
  · intro served m
    have hreply : ∀ (t : TemplateTable P) c m, ((t.call c).run m).1 = t.answer c :=
      fun t c m => t.result_call c m
    refine ⟨?_, ?_, ?_, fun path query h => TemplateTable.matchM_of_outside _ h query m,
      fun c => TemplateTable.metrics_of_isUncounted _ m⟩
    · refine Tally.agrees_run Metrics.template (fun t c m => ?_) (fun t c m h => ?_) rfl _ calls
      · rw [TemplateTable.metrics_call, hreply]
      · rw [hreply]
        exact t.isSome_answers? h
    · have hstep : ∀ (t : TemplateTable P) c m, ((t.call c).run m).2.conflicts = m.conflicts
          + if c.registers && ((t.call c).run m).1.1.isConflict then 1 else 0 := fun t c m => by
        rw [TemplateTable.metrics_call, hreply]
      have hrun := runAllM_count Metrics.conflicts
        (fun (c : TemplateCall P) (reply : Reply (TemplateMatch P)) =>
          c.registers && reply.isConflict) hstep (TemplateTable.empty dup base) calls {}
      exact hrun.trans (Nat.zero_add _)
    · refine runAllM_preserves (I := fun _ m =>
        m = { template := m.template, conflicts := m.conflicts }) (fun t c m h => ?_) rfl calls
      rw [TemplateTable.metrics_call, h]

/-- A filter registered twice is one registration, and a second attempt changes no metric. Below a base
path, a template registered twice is one registration and one conflict, a path that lies outside is a
miss, and a template that cannot be read changes no metric. -/
theorem run_counted_twice :
    (let f := AddressFilter.of (Address.ofParts "http" "host" none "/a") true []
      let served := ((AddressTable.empty .exactOnly : AddressTable Nat).run
        [.add f 1, .add f 2, .request ⟨f.address, [], []⟩]).run {}
      served.2 = { address := { registrations := 1, hits := 1 }, candidateSets := some 1 }
        ∧ (served.1.2.answer (.add f 3)).1.isUncounted = true
        ∧ ((served.1.2.call (.add f 3)).run served.2).2 = served.2)
      ∧ (let served := ((TemplateTable.empty false (some "/api") : TemplateTable Nat).run
          [.add "/a" 1, .add "/a" 2, .single "/api/a" []]).run {}
        served.2 = { template := { registrations := 1, hits := 1 }, conflicts := 1 }
          ∧ TemplateTable.below served.1.2.basePath (Path.decodedSegments "/a") = none
          ∧ (served.1.2.matchM "/a" []).run served.2 = ([], served.2.requested .template 0)
          ∧ (served.1.2.answer (.add "/\x7b" 3)).1.isUncounted = true
          ∧ ((served.1.2.call (.add "/\x7b" 3)).run served.2).2 = served.2) := by
  refine ⟨⟨?_, ?_, (run_counted.1 .exactOnly _).2.2.2 _ ?_⟩, ⟨?_, ?_,
    (run_counted.2 false (some "/api") _).2.2.2.1 "/a" [] ?_, ?_,
    (run_counted.2 false (some "/api") _).2.2.2.2 _ ?_⟩⟩
  all_goals decide +kernel

end Switchboard
