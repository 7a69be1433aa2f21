import Switchboard.QualifiedName

/-!
# Names and their written forms

A name is read from a text and written as one, and the two should undo each other wherever the braces of
the text stand. What may be written for a name is said here by itself (`QualifiedName.Written`): its local
name alone, if it has no namespace, or its namespace in braces in front of its local name.

The braces tell the two forms apart and settle where a namespace ends. A local name holds no brace, so a
text with an opening brace in front is not the first form. A namespace may hold opening braces but no
closing one, so it goes up to the first closing brace. Hence a text is a written form of at most one name,
and reading finds that name (`QualifiedName.parse_eq_ok_iff`).

A name, in turn, has a single written form if it has a namespace. If it has none there are two, and the one
with an empty pair of braces in front is never written (`QualifiedName.written_iff`). So writing gives back
any text that was read but those with such a pair, and names that were read are told apart by what is
written for them (`QualifiedName.Legible.display_inj`).
-/

namespace Switchboard.QualifiedName

/-- **The written forms of a name.** -/
inductive Written : String → QualifiedName → Prop where
  /-- A local name by itself is a name without a namespace. -/
  | bare {name : String} (hname : IsLocal name.toList) : Written name ⟨"", name⟩
  /-- A text without a closing brace, put in braces in front of a local name, is its namespace. -/
  | braced {space name : String} (hspace : '}' ∉ space.toList) (hname : IsLocal name.toList) :
    Written ("\x7b" ++ space ++ "\x7d" ++ name) ⟨space, name⟩

/-- **A legible name** has no brace in its parts that could be taken for one around its namespace. -/
structure Legible (q : QualifiedName) : Prop where
  /-- The namespace holds no closing brace. -/
  space : '}' ∉ q.space.toList
  /-- The local name holds some character and no brace. -/
  localName : IsLocal q.localName.toList

variable {text : String} {p q : QualifiedName}

/-! ## Reading -/

theorem toList_braced (space name : String) :
    ("\x7b" ++ space ++ "\x7d" ++ name).toList = '{' :: (space.toList ++ '}' :: name.toList) := by
  simp

/-- A local name is not taken for a namespace with its brace. -/
theorem IsLocal.head?_ne {cs : List Char} (h : IsLocal cs) : cs.head? ≠ some '{' :=
  fun hhead => h.2.1 (List.mem_of_head? hhead)

/-- A text falls into halves in one of two ways, by whether an opening brace is in front. -/
theorem halves?_eq_some_iff {cs space name : List Char} : halves? cs = some (space, name)
    ↔ (cs = '{' :: (space ++ '}' :: name) ∧ '}' ∉ space)
      ∨ (cs.head? ≠ some '{' ∧ space = [] ∧ name = cs) := by
  unfold halves?
  split
  next rest =>
    rw [Text.cut?_eq_some_iff, List.cons.injEq]
    simp
  next hbare =>
    have hhead : cs.head? ≠ some '{' := by
      intro hhead
      obtain ⟨rest, rfl⟩ := List.head?_eq_some_iff.1 hhead
      exact hbare rest rfl
    have hopen : cs ≠ '{' :: (space ++ '}' :: name) := hbare _
    simp [hhead, hopen, eq_comm]

/-- The written forms of a name are the texts that fall into its two parts. -/
theorem written_iff_halves? : Written text q
    ↔ halves? text.toList = some (q.space.toList, q.localName.toList) ∧ IsLocal q.localName.toList := by
  rw [halves?_eq_some_iff]
  constructor
  · intro h
    cases h with
    | bare hname => exact ⟨.inr ⟨hname.head?_ne, String.toList_empty, rfl⟩, hname⟩
    | braced hspace hname => exact ⟨.inl ⟨toList_braced _ _, hspace⟩, hname⟩
  · obtain ⟨space, name⟩ := q
    rintro ⟨⟨htext, hspace⟩ | ⟨-, hspace, hname⟩, hlocal⟩
    · rw [← toList_braced, String.toList_inj] at htext
      exact htext ▸ .braced hspace hlocal
    · obtain rfl := String.toList_inj.1 hname
      obtain rfl := String.toList_eq_nil_iff.1 hspace
      exact .bare hlocal

theorem parse?_eq_some_iff : parse? text = some q ↔ Written text q := by
  rw [written_iff_halves?]
  unfold parse?
  constructor
  · intro h
    split at h
    next space name hhalves =>
      split at h
      next hname =>
        obtain rfl := Option.some.inj h
        rw [String.toList_ofList, String.toList_ofList]
        exact ⟨hhalves, hname⟩
      · cases h
    · cases h
  · rintro ⟨hhalves, hname⟩
    rw [hhalves]
    show (if IsLocal q.localName.toList then _ else none) = _
    rw [if_pos hname, String.ofList_toList, String.ofList_toList]

/-- **Reading finds the name that a text is a written form of.** -/
theorem parse_eq_ok_iff : parse text = .ok q ↔ Written text q := by
  rw [← parse?_eq_some_iff]
  unfold parse
  cases parse? text with
  | none => simp
  | some p => simp

/-- A text that is no written form is refused, and the refusal names it. -/
theorem parse_eq_error_iff {e : MalformedName} :
    parse text = .error e ↔ e = ⟨text⟩ ∧ ∀ q, ¬ Written text q := by
  simp only [← parse?_eq_some_iff]
  unfold parse
  cases parse? text with
  | none => simp [eq_comm]
  | some p => simp

/-! ## Writing -/

/-- A name without a namespace is written as its local name alone. -/
theorem display_bare (name : String) : display ⟨"", name⟩ = name :=
  if_pos rfl

/-- A name with a namespace is written with it. -/
theorem display_braced {space : String} (h : space ≠ "") (name : String) :
    display ⟨space, name⟩ = "\x7b" ++ space ++ "\x7d" ++ name := by
  rw [display, if_neg h, ← String.toList_inj, String.toList_ofList, toList_braced]
  rfl

/-- **The written forms of a name are what is written for it** and, if it has no namespace, the same with an
empty pair of braces in front. -/
theorem written_iff : Written text q
    ↔ q.Legible ∧ (text = q.display ∨ q.space = "" ∧ text = "\x7b\x7d" ++ q.display) := by
  constructor
  · intro h
    cases h with
    | bare hname => exact ⟨⟨List.not_mem_nil, hname⟩, .inl (display_bare text).symm⟩
    | @braced space name hspace hname =>
      refine ⟨⟨hspace, hname⟩, ?_⟩
      by_cases hempty : space = ""
      · subst hempty
        exact .inr ⟨rfl, congrArg _ (display_bare name).symm⟩
      · exact .inl (display_braced hempty name).symm
  · obtain ⟨space, name⟩ := q
    rintro ⟨hlegible, rfl | ⟨rfl, rfl⟩⟩
    · by_cases hempty : space = ""
      · subst hempty
        exact (display_bare name).symm ▸ .bare hlegible.localName
      · exact (display_braced hempty name).symm ▸ .braced hlegible.space hlegible.localName
    · rw [display_bare]
      exact .braced hlegible.space hlegible.localName

namespace Legible

/-- A legible name is read back from what is written for it. -/
theorem parse_display (h : q.Legible) : parse q.display = .ok q :=
  parse_eq_ok_iff.2 (written_iff.2 ⟨h, .inl rfl⟩)

/-- An empty pair of braces is never written. -/
theorem not_prefix_display (h : q.Legible) : ¬ ['{', '}'] <+: q.display.toList := by
  obtain ⟨space, name⟩ := q
  by_cases hempty : space = ""
  · subst hempty
    rw [display_bare]
    exact fun hbraces => h.localName.2.1 (hbraces.subset (by simp))
  · rw [display_braced hempty, toList_braced]
    intro hbraces
    have hclose := (List.cons_prefix_cons.1 hbraces).2
    -- a namespace that is not empty would begin with the closing brace
    cases hspace : space.toList with
    | nil => exact hempty (String.toList_eq_nil_iff.1 hspace)
    | cons c cs =>
      rw [hspace, List.cons_append, List.cons_prefix_cons] at hclose
      exact h.space (hspace ▸ hclose.1 ▸ List.mem_cons_self)

/-- **Legible names are told apart by what is written for them.** -/
theorem display_inj (hp : p.Legible) (hq : q.Legible) : p.display = q.display ↔ p = q := by
  refine ⟨fun h => ?_, congrArg display⟩
  have hread := hp.parse_display
  rw [h, hq.parse_display] at hread
  exact (Except.ok.inj hread).symm

end Legible

/-- Other names need not be: here the local name of the first looks like both parts of the second. -/
example : display ⟨"", "\x7bns\x7dTo"⟩ = display ⟨"ns", "To"⟩ := by decide

namespace Written

theorem legible (h : Written text q) : q.Legible :=
  (written_iff.1 h).1

/-- What is written for a name comes behind the empty pair of braces that its text has in front. -/
theorem eq_of_emptyBraces (h : Written text q) (hbraces : ['{', '}'] <+: text.toList) :
    "\x7b\x7d" ++ q.display = text := by
  obtain ⟨hq, rfl | ⟨-, rfl⟩⟩ := written_iff.1 h
  · exact absurd hbraces hq.not_prefix_display
  · rfl

/-- **A text is written back as it is** unless it has an empty pair of braces in front. -/
theorem display_eq_iff (h : Written text q) :
    q.display = text ↔ ¬ ['{', '}'] <+: text.toList := by
  constructor
  · rintro rfl
    exact h.legible.not_prefix_display
  · intro hbraces
    obtain ⟨-, rfl | ⟨-, rfl⟩⟩ := written_iff.1 h
    · rfl
    · rw [String.toList_append] at hbraces
      exact absurd (List.prefix_append _ _) hbraces

end Written

/-- **Reading a name and writing it undo each other**, but for an empty pair of braces. A text is read
exactly if it is a written form of a name, which is then the name that is read, and any other text is
refused and named in the refusal. A name that was read is read back from what is written for it. That is
the text the name was read from unless the text has an empty pair of braces in front, and then it is what
comes behind them. So names that were read are the same exactly if the same is written for them. -/
theorem parse_inverts_display :
    (∀ text q, parse text = .ok q ↔ Written text q)
      ∧ (∀ text e, parse text = .error e ↔ e = ⟨text⟩ ∧ ∀ q, ¬ Written text q)
      ∧ (∀ text q, parse text = .ok q → parse q.display = .ok q
          ∧ (q.display = text ↔ ¬ ['{', '}'] <+: text.toList)
          ∧ (['{', '}'] <+: text.toList → "\x7b\x7d" ++ q.display = text))
      ∧ ∀ s t p q, parse s = .ok p → parse t = .ok q → (p = q ↔ p.display = q.display) := by
  refine ⟨fun text q => parse_eq_ok_iff, fun text e => parse_eq_error_iff, fun text q h => ?_,
    fun s t p q hp hq => ?_⟩
  · have hwritten := parse_eq_ok_iff.1 h
    exact ⟨hwritten.legible.parse_display, hwritten.display_eq_iff, hwritten.eq_of_emptyBraces⟩
  · have hp := (parse_eq_ok_iff.1 hp).legible
    have hq := (parse_eq_ok_iff.1 hq).legible
    exact (hp.display_inj hq).symm

/-- A namespace that holds an opening brace, and an empty one: the first name is written as it was read,
the second is not, and no text is written for both. -/
theorem parse_inverts_display_nested :
    let nested : QualifiedName := ⟨"urn:\x7ba", "To"⟩
    let plain : QualifiedName := ⟨"", "To"⟩
    parse "\x7burn:\x7ba\x7dTo" = .ok nested ∧ parse "\x7b\x7dTo" = .ok plain
      ∧ nested.display = "\x7burn:\x7ba\x7dTo" ∧ parse nested.display = .ok nested
      ∧ "\x7b\x7d" ++ plain.display = "\x7b\x7dTo" ∧ parse plain.display = .ok plain
      ∧ nested.display ≠ plain.display := by
  intro nested plain
  have hnested : parse "\x7burn:\x7ba\x7dTo" = .ok nested := rfl
  have hplain : parse "\x7b\x7dTo" = .ok plain := rfl
  obtain ⟨-, -, hback, hsame⟩ := parse_inverts_display
  obtain ⟨hnested', hwhole, -⟩ := hback _ _ hnested
  obtain ⟨hplain', -, hrest⟩ := hback _ _ hplain
  exact ⟨hnested, hplain, hwhole.2 (by decide), hnested', hrest (by decide), hplain',
    mt (hsame _ _ _ _ hnested hplain).2 (by decide)⟩

end Switchboard.QualifiedName
