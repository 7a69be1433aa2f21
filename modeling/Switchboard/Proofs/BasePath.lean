import Switchboard.Proofs.Counters
import Switchboard.Proofs.Spelling
import Switchboard.Proofs.TemplateRoll

/-!
# Templates below a base path

A table with a base path should be the table without one, moved: what it answers below its base, the
other answers at the root. There are two sides to this. What the table keeps must not depend on the
base. The base is read when a request is answered and at no other time, so two tables that differ in
their bases only (`TemplateTable.rebased`) still do so after the same call, and call and call alike are
carried out or refused (`TemplateTable.answer_rebased`).

And what is left of a path below the base must be a path again. What is compared are decoded segments, but
a decoded segment cannot be written back, as it may hold a slash of its own. So it is the segments as
written that are joined for the other table. They split again where they were joined and nowhere else
(`Path.segments_rejoined`), and decoding goes segment by segment, so leaving out the first segments of a
path leaves out the first decoded ones (`Path.decodedSegments_rest`).
-/

namespace Switchboard

namespace Path

/-- **The rest of a path** behind its first segments, as it is written. -/
def rest (n : Nat) (path : String) : String :=
  String.intercalate "/" ((segments path).drop n)

/-- The decoded segments of the rest of a path are the rest of its decoded segments. -/
theorem decodedSegments_rest (n : Nat) (path : String) :
    decodedSegments (rest n path) = (decodedSegments path).drop n := by
  unfold decodedSegments rest
  rw [segments_rejoined (List.drop_subset n _), List.map_drop]

/-- What is below a base is what follows it. -/
theorem under_append (base path : List String) : under base (base ++ path) = some path := by
  unfold under
  rw [List.take_left, List.drop_left, if_pos rfl]

/-- A path is below a base exactly if it starts with it, up to case. -/
theorem under_eq_ite (base path : List String) : under base path
    = if base.map Ascii.upper <+: path.map Ascii.upper then some (path.drop base.length)
      else none := by
  unfold under
  refine if_congr ?_ rfl rfl
  rw [List.prefix_iff_eq_take, List.length_map, ← List.map_take, eq_comm]

end Path

namespace TemplateTable

variable {P : Type}

/-- **The same templates below another base.** -/
def rebased (base : List String) (t : TemplateTable P) : TemplateTable P :=
  { t with basePath := base }

/-! ## What is kept -/

section Kept

variable (t : TemplateTable P) (base : List String)

/-- A registration goes alike below every base. -/
theorem add_rebased (text : String) (payload : P) :
    Alike (fun u v => u = v.rebased base) ((t.rebased base).add text payload) (t.add text payload) :=
  Alike.bind fun _ _ => Alike.bind fun _ _ => .done rfl

/-- A removal goes alike below every base. -/
theorem remove?_rebased (text : String) :
    Alike (Option.Rel fun u v => u = v.rebased base) ((t.rebased base).remove? text)
      (t.remove? text) := by
  refine Alike.bind fun a _ => ?_
  dsimp only [rebased]
  split
  · exact .done .none
  · split
    · exact .done .none
    · exact Alike.bind fun _ _ => .done (.some rfl)

/-- **What a call leaves does not depend on the base**, and what it replies does not unless it asks. -/
theorem answer_rebased (c : TemplateCall P) :
    (c.asks = false → ((t.rebased base).answer c).1 = (t.answer c).1)
      ∧ ((t.rebased base).answer c).2 = (t.answer c).2.rebased base := by
  cases c with
  | add text payload =>
    rw [answer, answer]
    exact ((t.add_rebased base text payload).ofAdd rfl).imp_left fun h _ => h
  | addFilter f payload =>
    rw [answer, answer]
    exact ((Alike.bind fun text _ => t.add_rebased base text payload).ofAdd rfl).imp_left fun h _ => h
  | remove text =>
    rw [answer, answer]
    exact ((t.remove?_rebased base text).ofRemove rfl).imp_left fun h _ => h
  | removeFilter f =>
    rw [answer, answer]
    exact ((Alike.bind fun text _ => t.remove?_rebased base text).ofRemove rfl).imp_left fun h _ => h
  | clear => exact ⟨fun _ => rfl, rfl⟩
  | request _ _ | requestOf _ | single _ _ =>
    -- these three ask, so their replies may differ
    exact ⟨fun hasks => Bool.noConfusion hasks, rfl⟩

end Kept

/-- **What calls leave does not depend on the base.** -/
theorem runAll_rebased (t : TemplateTable P) (base : List String) (calls : List (TemplateCall P)) :
    (runAll answer (t.rebased base) calls).2 = (runAll answer t calls).2.rebased base := by
  induction calls generalizing t with
  | nil => rfl
  | cons c calls ih =>
    show (runAll answer ((t.rebased base).answer c).2 calls).2 = _
    rw [(t.answer_rebased base c).2, ih]
    rfl

/-! ## What is answered -/

/-- What a table answers at the root, if its path is the rest of a path below the base, is what it
answers there below the base. -/
theorem matching_rebased (t : TemplateTable P) (base : List String) {path rest : String}
    (h : Path.under base (Path.decodedSegments path) = some (Path.decodedSegments rest))
    (query : Query) :
    (t.rebased base).matching path query = (t.rebased []).matching rest query := by
  unfold matching
  rw [below_eq_under, show (t.rebased base).basePath = base from rfl, h]
  rfl

/-- Nothing is answered outside the base. -/
theorem matching_rebased_of_outside (t : TemplateTable P) {base : List String} {path : String}
    (h : Path.under base (Path.decodedSegments path) = none) (query : Query) :
    (t.rebased base).matching path query = [] := by
  unfold matching
  rw [below_eq_under, show (t.rebased base).basePath = base from rfl, h]

/-- **A table below a base path is the table at the root, moved.** Whatever calls are made on both, from
empty tables on, a call that does not ask is replied to alike. The one answers to a path behind the base
what the other answers to the path. To any path it answers nothing unless the path starts, up to case,
with the base, segment by segment and decoded, and then what the other answers to the rest of the path as
it is written. -/
theorem run_moved (dup : Bool) (base : String) (calls : List (TemplateCall P)) (m m' : Metrics) :
    let moved := (((empty dup (some base) : TemplateTable P).run calls).result m).2
    let plain := (((empty dup none : TemplateTable P).run calls).result m').2
    (∀ c, c.asks = false → (moved.answer c).1 = (plain.answer c).1)
      ∧ (∀ path query, moved.matching (base ++ "/" ++ path) query = plain.matching path query)
      ∧ ∀ path query, moved.matching path query
        = if (Path.decodedSegments base).map Ascii.upper
            <+: (Path.decodedSegments path).map Ascii.upper
          then plain.matching (Path.rest (Path.decodedSegments base).length path) query
          else [] := by
  intro moved plain
  let kept := (runAll answer (empty dup none : TemplateTable P) calls).2
  have hmoved : moved = kept.rebased (Path.decodedSegments base) := by
    show (((empty dup (some base)).run calls).result m).2 = _
    rw [result_run]
    exact runAll_rebased (empty dup none) _ calls
  have hplain : plain = kept.rebased [] := by
    show (((empty dup none).run calls).result m').2 = _
    rw [result_run]
    exact runAll_rebased (empty dup none) [] calls
  rw [hmoved, hplain]
  refine ⟨fun c hc => ?_, fun path query => ?_, fun path query => ?_⟩
  · rw [(kept.answer_rebased _ c).1 hc, (kept.answer_rebased _ c).1 hc]
  · refine kept.matching_rebased _ ?_ query
    rw [Path.decodedSegments_append, Path.under_append]
  · have hunder := Path.under_eq_ite (Path.decodedSegments base) (Path.decodedSegments path)
    split
    next hprefix =>
      rw [if_pos hprefix, ← Path.decodedSegments_rest] at hunder
      exact kept.matching_rebased _ hunder query
    next hprefix =>
      rw [if_neg hprefix] at hunder
      exact kept.matching_rebased_of_outside hunder query

/-- A base in other case, with an escape and a doubled slash, and a slash below it that is escaped and
stays so in the rest of the path. A path outside the base is not answered. -/
theorem run_moved_files :
    let calls : List (TemplateCall Nat) :=
      [.add "/items/\x7bid\x7d" 1, .add "/files/\x7bname\x7d/*" 2]
    let moved := (((empty false (some "/api/v1/")).run calls).result {}).2
    let plain := (((empty false none).run calls).result {}).2
    (moved.answer (.add "/items/\x7bkey\x7d" 3)).1 = (plain.answer (.add "/items/\x7bkey\x7d" 3)).1
      ∧ Path.rest 2 "/API//v%31/files/a%2Fb/c" = "files/a%2Fb/c"
      ∧ plain.matching "files/a%2Fb/c" [] = [⟨2, "/files/\x7bname\x7d/*", [("name", "a/b")]⟩]
      ∧ moved.matching "/API//v%31/files/a%2Fb/c" [] = plain.matching "files/a%2Fb/c" []
      ∧ moved.matching "/files/a/c" [] = [] := by
  intro calls moved plain
  obtain ⟨hreply, -, hpath⟩ := run_moved false "/api/v1/" calls {} {}
  have hrest : Path.rest 2 "/API//v%31/files/a%2Fb/c" = "files/a%2Fb/c" := by decide +kernel
  refine ⟨hreply _ rfl, hrest, by decide +kernel, ?_, ?_⟩
  · rw [← hrest]
    exact (hpath _ []).trans (if_pos (by decide +kernel))
  · exact (hpath _ []).trans (if_neg (by decide +kernel))

end TemplateTable

end Switchboard
