import Switchboard.Metered

/-!
# Calls on the tables

A table is used by calling it: it is given a registration to take or to drop, or a request to
answer, and it replies. A **run** is a list of calls made one after another, each on the table that
the one before left, all counting into the same metrics. What is true of every table is what is
true after every run.

A call that is refused leaves the table as it was, and so does a request. What a call replies and
leaves does not depend on what was counted before it: the plain operation decides
(`AddressTable.result_call`, `TemplateTable.result_call`), and counting goes along with it.

A property of all runs is proved by one step: what every call preserves, every run preserves
(`runAll_preserves`), and what two systems agree on call by call they agree on run by run
(`runAll_agrees`).
-/

namespace Switchboard

/-- **What a table replies to a call.** -/
inductive Reply (A : Type) where
  /-- The call was carried out. -/
  | done
  /-- The call was refused; the table is as it was. -/
  | refused (reason : DispatchError)
  /-- Whether there was anything to remove. -/
  | removed (found : Bool)
  /-- All answers to a request. -/
  | found (answers : List A)
  /-- The one answer to a request, if there is any. -/
  | one (answer : Option A)

namespace Reply

variable {A σ : Type}

/-- The reply to a registration, and the table after it. -/
def ofAdd (t : σ) : Except DispatchError σ → Reply A × σ
  | .ok t' => (.done, t')
  | .error e => (.refused e, t)

/-- The reply to a removal, and the table after it. -/
def ofRemove (t : σ) : Except DispatchError (Option σ) → Reply A × σ
  | .ok (some t') => (.removed true, t')
  | .ok none => (.removed false, t)
  | .error e => (.refused e, t)

/-- The reply to a request that asks for at most one answer. -/
def ofSingle : Except DispatchError (Option A) → Reply A
  | .ok a => .one a
  | .error e => .refused e

/-- **Whether a reply says that the table was changed**: a registration or a clearing was carried out,
or there was something to remove. -/
def changes : Reply A → Bool
  | .done => true
  | .removed something => something
  | _ => false

/-- A registration that is refused changes nothing. -/
theorem ofAdd_of_not_changes {t : σ} {r : Except DispatchError σ}
    (h : (ofAdd (A := A) t r).1.changes = false) : (ofAdd (A := A) t r).2 = t := by
  cases r with
  | error e => rfl
  | ok t' => cases h

/-- A removal that is refused or finds nothing changes nothing. -/
theorem ofRemove_of_not_changes {t : σ} {r : Except DispatchError (Option σ)}
    (h : (ofRemove (A := A) t r).1.changes = false) : (ofRemove (A := A) t r).2 = t := by
  rcases r with e | _ | t'
  · rfl
  · rfl
  · cases h

end Reply

/-! ## Runs -/

section Runs

variable {σ τ κ ρ : Type}

/-- **A run**: calls made one after another, each on what the one before left. -/
def runAll (answer : σ → κ → ρ × σ) : σ → List κ → List ρ × σ
  | s, [] => ([], s)
  | s, c :: cs =>
    let first := answer s c
    let rest := runAll answer first.2 cs
    (first.1 :: rest.1, rest.2)

/-- A run that counts. -/
def runAllM (call : σ → κ → Metered (ρ × σ)) : σ → List κ → Metered (List ρ × σ)
  | s, [] => return ([], s)
  | s, c :: cs => do
    let first ← call s c
    let rest ← runAllM call first.2 cs
    return (first.1 :: rest.1, rest.2)

/-- **What every call preserves, every run preserves.** -/
theorem runAll_preserves {answer : σ → κ → ρ × σ} {I : σ → Prop}
    (hstep : ∀ s c, I s → I (answer s c).2) {s : σ} (hs : I s) (cs : List κ) :
    I (runAll answer s cs).2 := by
  induction cs generalizing s with
  | nil => exact hs
  | cons c cs ih => exact ih (hstep s c hs)

/-- **What two systems agree on call by call, they agree on run by run.** -/
theorem runAll_agrees {answer : σ → κ → ρ × σ} {answer' : τ → κ → ρ × τ} {R : σ → τ → Prop}
    (hstep : ∀ s t c, R s t
      → (answer s c).1 = (answer' t c).1 ∧ R (answer s c).2 (answer' t c).2)
    {s : σ} {t : τ} (hst : R s t) (cs : List κ) :
    (runAll answer s cs).1 = (runAll answer' t cs).1
      ∧ R (runAll answer s cs).2 (runAll answer' t cs).2 := by
  induction cs generalizing s t with
  | nil => exact ⟨rfl, hst⟩
  | cons c cs ih =>
    obtain ⟨hreply, hnext⟩ := hstep s t c hst
    obtain ⟨hreplies, hlast⟩ := ih hnext
    refine ⟨?_, hlast⟩
    show (answer s c).1 :: _ = (answer' t c).1 :: _
    rw [hreply, hreplies]

end Runs

/-! ## Steps that can be refused -/

/-- **Two steps go alike**: both are refused, for one reason, or both are carried out and what they
leave is related. -/
inductive Alike {σ τ : Type} (R : σ → τ → Prop) :
    Except DispatchError σ → Except DispatchError τ → Prop where
  /-- Both are refused. -/
  | refused (reason : DispatchError) : Alike R (.error reason) (.error reason)
  /-- Both are carried out. -/
  | done {s : σ} {t : τ} (related : R s t) : Alike R (.ok s) (.ok t)

namespace Alike

variable {α A σ τ : Type} {R : σ → τ → Prop} {s : σ} {t : τ}

/-- Steps that start with the same step and go on alike go alike. -/
theorem bind {x : Except DispatchError α} {f : α → Except DispatchError σ}
    {g : α → Except DispatchError τ} (h : ∀ a, x = .ok a → Alike R (f a) (g a)) :
    Alike R (x >>= f) (x >>= g) := by
  cases x with
  | error e => exact .refused e
  | ok a => exact h a rfl

/-- Registrations that go alike are replied to alike. -/
theorem ofAdd {x : Except DispatchError σ} {y : Except DispatchError τ} (h : Alike R x y)
    (hst : R s t) :
    (Reply.ofAdd (A := A) s x).1 = (Reply.ofAdd t y).1
      ∧ R (Reply.ofAdd (A := A) s x).2 (Reply.ofAdd (A := A) t y).2 := by
  cases h with
  | refused e => exact ⟨rfl, hst⟩
  | done h => exact ⟨rfl, h⟩

/-- Removals that go alike are replied to alike. -/
theorem ofRemove {x : Except DispatchError (Option σ)} {y : Except DispatchError (Option τ)}
    (h : Alike (Option.Rel R) x y) (hst : R s t) :
    (Reply.ofRemove (A := A) s x).1 = (Reply.ofRemove t y).1
      ∧ R (Reply.ofRemove (A := A) s x).2 (Reply.ofRemove (A := A) t y).2 := by
  cases h with
  | refused e => exact ⟨rfl, hst⟩
  | done h =>
    cases h with
    | none => exact ⟨rfl, hst⟩
    | some h => exact ⟨rfl, h⟩

end Alike

/-! ## Taking the first out -/

/-- **Taking the first of some registrations out of a list** takes it out of the list read key by key,
where all of these have one key. -/
theorem filter_eraseP_comm {α κ : Type} [DecidableEq κ] {key : α → κ} {p : α → Bool} {l : List α}
    (hone : ∀ a ∈ l, ∀ b ∈ l, p a → p b → key a = key b) (k : κ) :
    (l.eraseP p).filter (fun a => key a = k) = (l.filter fun a => key a = k).eraseP p := by
  by_cases hany : ∃ a ∈ l, p a
  · obtain ⟨a₀, ha₀, hp₀⟩ := hany
    obtain ⟨a, l₁, l₂, hbefore, hp, hl, hrest⟩ := List.exists_of_eraseP ha₀ hp₀
    have ha : a ∈ l := hl ▸ List.mem_append_right l₁ List.mem_cons_self
    rw [hrest, List.filter_append]
    by_cases hkey : key a = k
    · -- the first of all is the first of its key as well
      rw [hl, List.filter_append, List.filter_cons_of_pos (by simpa using hkey),
        List.eraseP_append_right, List.eraseP_cons_of_pos hp]
      exact fun b hb => hbefore b (List.mem_filter.1 hb).1
    · rw [List.eraseP_of_forall_not, hl, List.filter_append,
        List.filter_cons_of_neg (by simpa using hkey)]
      intro b hb hpb
      obtain ⟨hb, hkeyb⟩ := List.mem_filter.1 hb
      exact hkey ((hone a ha b hb hp hpb).trans (of_decide_eq_true hkeyb))
  · have hnone : ∀ a ∈ l, ¬ p a := fun a ha hp => hany ⟨a, ha, hp⟩
    rw [List.eraseP_of_forall_not hnone, List.eraseP_of_forall_not]
    exact fun a ha => hnone a (List.mem_filter.1 ha).1

/-! ## Counting decides nothing -/

/-- What a computation answers when it starts from what was counted before. -/
def Metered.result {α : Type} (x : Metered α) (m : Metrics) : α :=
  (x.run m).1

theorem Metered.result_pure {α : Type} (a : α) (m : Metrics) :
    Metered.result (pure a) m = a := rfl

/-- What is made of an answer is made of it whatever was counted. -/
theorem Metered.result_bind_pure {α β : Type} (x : Metered α) (f : α → β) (m : Metrics) :
    Metered.result (x >>= fun a => pure (f a)) m = f (x.result m) := rfl

/-- **If what was counted does not matter to any call, it does not matter to a run.** -/
theorem result_runAllM {σ κ ρ : Type} {call : σ → κ → Metered (ρ × σ)} {answer : σ → κ → ρ × σ}
    (hcall : ∀ s c m, (call s c).result m = answer s c) (s : σ) (cs : List κ) (m : Metrics) :
    (runAllM call s cs).result m = runAll answer s cs := by
  induction cs generalizing s m with
  | nil => rfl
  | cons c cs ih =>
    have hbind : (runAllM call s (c :: cs)).result m
        = (((call s c).result m).1 ::
              ((runAllM call ((call s c).result m).2 cs).result (call s c m).2).1,
            ((runAllM call ((call s c).result m).2 cs).result (call s c m).2).2) := rfl
    rw [hbind, hcall, ih]
    rfl

/-! ## Calls on the address table -/

/-- **A call on the address table.** -/
inductive AddressCall (P : Type) where
  /-- Register a filter. -/
  | add (filter : AddressFilter) (payload : P)
  /-- Register a filter of any kind. -/
  | addFilter (filter : MessageFilter) (payload : P)
  /-- Remove a filter. -/
  | remove (filter : AddressFilter)
  /-- Remove a filter of any kind. -/
  | removeFilter (filter : MessageFilter)
  /-- Drop every registration. -/
  | clear
  /-- Ask for all answers. -/
  | request (request : Request)
  /-- Ask for at most one answer. -/
  | single (request : Request)

namespace AddressTable

variable {P : Type}

/-- **Carrying out a call.** -/
def call (t : AddressTable P) : AddressCall P → Metered (Reply P × AddressTable P)
  | .add f payload => return Reply.ofAdd t (← t.addM f payload)
  | .addFilter f payload => return Reply.ofAdd t (← t.addFilterM f payload)
  | .remove f => return Reply.ofRemove t (.ok (← t.removeM f))
  | .removeFilter f => return Reply.ofRemove t (← t.removeFilterM f)
  | .clear => return (.done, ← t.clearM)
  | .request r => return (.found (← t.matchM r), t)
  | .single r => return (Reply.ofSingle (← t.matchSingleM r), t)

/-- **What a call replies and leaves**, by the plain operations. -/
def answer (t : AddressTable P) : AddressCall P → Reply P × AddressTable P
  | .add f payload => Reply.ofAdd t (t.add f payload)
  | .addFilter f payload => Reply.ofAdd t (f.forAddresses >>= fun f => t.add f payload)
  | .remove f => Reply.ofRemove t (.ok (t.remove? f))
  | .removeFilter f => Reply.ofRemove t (f.forAddresses.map t.remove?)
  | .clear => (.done, t.cleared)
  | .request r => (.found (t.matching r), t)
  | .single r => (Reply.ofSingle (single (t.matching r)), t)

/-- **A request is counted by the number of its answers**, whether or not a set serves its
destination. -/
theorem run_matchM (t : AddressTable P) (r : Request) (m : Metrics) :
    (t.matchM r).run m = (t.matching r, m.requested .address (t.matching r).length) := by
  unfold matchM matching
  cases t.setFor? r.destination with
  | none => rfl
  | some set => rfl

/-- Counting does not change what a call replies and leaves. -/
theorem result_call (t : AddressTable P) (c : AddressCall P) (m : Metrics) :
    (t.call c).result m = t.answer c := by
  have hadd : ∀ f payload, (t.addM f payload).result m = t.add f payload := by
    intro f payload
    unfold addM
    cases t.add f payload <;> rfl
  have hremove : ∀ f, (t.removeM f).result m = t.remove? f := by
    intro f
    unfold removeM
    cases t.remove? f <;> rfl
  have hmatch : ∀ r, (t.matchM r).result m = t.matching r :=
    fun r => congrArg Prod.fst (t.run_matchM r m)
  cases c with
  | add f payload => rw [call, Metered.result_bind_pure, hadd]; rfl
  | addFilter f payload =>
    rw [call, Metered.result_bind_pure, addFilterM, answer]
    cases f.forAddresses with
    | error e => rfl
    | ok f => exact congrArg (Reply.ofAdd t) (hadd f payload)
  | remove f => rw [call, Metered.result_bind_pure, hremove]; rfl
  | removeFilter f =>
    rw [call, Metered.result_bind_pure, removeFilterM, answer]
    cases f.forAddresses with
    | error e => rfl
    | ok f => exact congrArg (fun rest => Reply.ofRemove t (.ok rest)) (hremove f)
  | clear => rfl
  | request r => rw [call, Metered.result_bind_pure, hmatch, answer]
  | single r =>
    rw [call, Metered.result_bind_pure, matchSingleM, Metered.result_bind_pure, hmatch, answer]

/-- **A run on the address table.** -/
def run (t : AddressTable P) (calls : List (AddressCall P)) :
    Metered (List (Reply P) × AddressTable P) :=
  runAllM call t calls

theorem result_run (t : AddressTable P) (calls : List (AddressCall P)) (m : Metrics) :
    (t.run calls).result m = runAll answer t calls :=
  result_runAllM result_call t calls m

end AddressTable

/-! ## Calls on the template table -/

/-- **A call on the template table.** -/
inductive TemplateCall (P : Type) where
  /-- Register a template. -/
  | add (text : String) (payload : P)
  /-- Register a filter of any kind. -/
  | addFilter (filter : MessageFilter) (payload : P)
  /-- Remove a template. -/
  | remove (text : String)
  /-- Remove a filter of any kind. -/
  | removeFilter (filter : MessageFilter)
  /-- Drop every template. -/
  | clear
  /-- Ask for all answers to a path and a query. -/
  | request (path : String) (query : Query)
  /-- Ask for all answers to a request. -/
  | requestOf (request : Request)
  /-- Ask for at most one answer to a path and a query. -/
  | single (path : String) (query : Query)

namespace TemplateTable

variable {P : Type}

/-- **Carrying out a call.** -/
def call (t : TemplateTable P) :
    TemplateCall P → Metered (Reply (TemplateMatch P) × TemplateTable P)
  | .add text payload => return Reply.ofAdd t (← t.addM text payload)
  | .addFilter f payload => return Reply.ofAdd t (← t.addFilterM f payload)
  | .remove text => return Reply.ofRemove t (t.remove? text)
  | .removeFilter f => return Reply.ofRemove t (t.removeFilter? f)
  | .clear => return (.done, t.cleared)
  | .request path query => return (.found (← t.matchM path query), t)
  | .requestOf r => return (.found (← t.matchRequestM r), t)
  | .single path query => return (Reply.ofSingle (← t.matchSingleM path query), t)

/-- **What a call replies and leaves**, by the plain operations. -/
def answer (t : TemplateTable P) :
    TemplateCall P → Reply (TemplateMatch P) × TemplateTable P
  | .add text payload => Reply.ofAdd t (t.add text payload)
  | .addFilter f payload => Reply.ofAdd t (f.forTemplates >>= fun text => t.add text payload)
  | .remove text => Reply.ofRemove t (t.remove? text)
  | .removeFilter f => Reply.ofRemove t (f.forTemplates >>= t.remove?)
  | .clear => (.done, t.cleared)
  | .request path query => (.found (t.matching path query), t)
  | .requestOf r => (.found (t.matching r.destination.path r.query), t)
  | .single path query => (Reply.ofSingle (Switchboard.single (t.matching path query)), t)

/-- Registering a text that compiles is registering the template. -/
theorem add_of_compile {text : String} {template : Template}
    (h : Template.compile text = .ok template) (t : TemplateTable P) (payload : P) :
    t.add text payload = t.addTemplate template payload := by
  unfold add
  rw [h]
  rfl

/-- Counting does not change what a registration comes to. -/
theorem result_addM (t : TemplateTable P) (text : String) (payload : P) (m : Metrics) :
    (t.addM text payload).result m = t.add text payload := by
  unfold addM
  cases hcompile : Template.compile text with
  | error e =>
    unfold add
    rw [hcompile]
    rfl
  | ok template =>
    rw [add_of_compile hcompile]
    dsimp only
    cases t.addTemplate template payload with
    | error e => rfl
    | ok t' => rfl

/-- **A request is counted by the number of its answers**, whether or not its path lies below the base
path. -/
theorem run_matchM (t : TemplateTable P) (path : String) (query : Query) (m : Metrics) :
    (t.matchM path query).run m
      = (t.matching path query, m.requested .template (t.matching path query).length) := by
  unfold matchM matching
  cases below t.basePath (Path.decodedSegments path) with
  | none => rfl
  | some rest => rfl

/-- Counting does not change what a call replies and leaves. -/
theorem result_call (t : TemplateTable P) (c : TemplateCall P) (m : Metrics) :
    (t.call c).result m = t.answer c := by
  have hmatch : ∀ path query, (t.matchM path query).result m = t.matching path query :=
    fun path query => congrArg Prod.fst (t.run_matchM path query m)
  cases c with
  | add text payload => rw [call, Metered.result_bind_pure, result_addM, answer]
  | addFilter f payload =>
    rw [call, Metered.result_bind_pure, addFilterM, answer]
    cases f.forTemplates with
    | error e => rfl
    | ok text =>
      dsimp only [bind, Except.bind]
      rw [result_addM]
  | remove text => rw [call, Metered.result_pure, answer]
  | removeFilter f => rw [call, Metered.result_pure, removeFilter?, answer]
  | clear => rfl
  | request path query => rw [call, Metered.result_bind_pure, hmatch, answer]
  | requestOf r => rw [call, Metered.result_bind_pure, matchRequestM, hmatch, answer]
  | single path query =>
    rw [call, Metered.result_bind_pure, matchSingleM, Metered.result_bind_pure, hmatch, answer]

/-- **A run on the template table.** -/
def run (t : TemplateTable P) (calls : List (TemplateCall P)) :
    Metered (List (Reply (TemplateMatch P)) × TemplateTable P) :=
  runAllM call t calls

theorem result_run (t : TemplateTable P) (calls : List (TemplateCall P)) (m : Metrics) :
    (t.run calls).result m = runAll answer t calls :=
  result_runAllM result_call t calls m

end TemplateTable

end Switchboard
