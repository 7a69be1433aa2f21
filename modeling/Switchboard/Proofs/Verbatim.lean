import Mathlib.Data.List.Basic
import Switchboard.Proofs.Spelling

/-!
# Texts that are read as they are written

A key or a value of a query is read by the rules for submitted forms: a plus is a space, and escapes are
undone. A text that has neither is **verbatim**, and read as it is (`Query.unplus_of_verbatim`). No other
text is, as any other is read as a text that is *lighter* (`Query.weight_unplus_lt`).

The **weight** of a text is the number of its characters, a plus counted twice. A plus that becomes a
space makes a text lighter by one. An escape weighs three, and is one octet, but what that octet does to
the text depends on those around it: it can break off a character that others began, which costs a
replacement character, and then be a character of its own. So the replacement character is **owed** from
the octet on that began the character, and one more octet adds no more than two to what is read and owed
(`Utf8.exists_read`). A character that is not escaped weighs as much read as written, since its first
octet never goes on with a character begun before it (`Utf8.decodeFrom_some_utf8EncodeChar`).
-/

namespace Switchboard

/-- **The weight of a text**: the number of its characters, a plus counted twice. -/
def Text.weight : List Char → Nat
  | [] => 0
  | c :: cs => (if c = '+' then 2 else 1) + weight cs

theorem Text.weight_append (a b : List Char) : weight (a ++ b) = weight a + weight b := by
  induction a with
  | nil => exact (Nat.zero_add _).symm
  | cons c a ih => rw [List.cons_append, weight, weight, ih, Nat.add_assoc]

theorem Text.weight_singleton_le (c : Char) : weight [c] ≤ 2 := by
  unfold weight weight
  split <;> decide

/-! ## Octets -/

namespace Utf8

/-- **A character that has begun** goes on with an octet that begins none. -/
def Pending.Regular (p : Pending) : Prop :=
  0x80 ≤ p.low ∧ p.high ≤ 0xBF

/-- **What is owed** for a character that has begun: the replacement character, if it is broken off. -/
def owed : Option Pending → Nat
  | none => 0
  | some _ => 1

theorem regular_of_lead {b : UInt8} {p : Pending} (h : lead b = .start p) : p.Regular := by
  unfold lead at h
  repeat' split at h
  all_goals cases h
  all_goals simp [Pending.Regular]

theorem regular_of_next {q p : Pending} {b : UInt8} (h : q.next b = .start p) : p.Regular := by
  unfold Pending.next at h
  dsimp only at h
  split at h
  all_goals cases h
  simp [Pending.Regular]

/-- An octet out of its range breaks a character off, and is read again. -/
theorem decodeFrom_some_of_not_range {p : Pending} {b : UInt8} (h : ¬ (p.low ≤ b ∧ b ≤ p.high))
    (bs : List UInt8) : decodeFrom (some p) (b :: bs) = replacement :: decodeFrom none (b :: bs) := by
  conv_lhs => rw [decodeFrom, if_neg h]
  conv_rhs => rw [decodeFrom]
  cases lead b <;> rfl

/-- An octet between characters adds no more than two to what is read and owed. -/
theorem exists_read_none (b : UInt8) : ∃ (out : List Char) (st : Option Pending),
    (∀ p ∈ st, p.Regular) ∧ (∀ bs, decodeFrom none (b :: bs) = out ++ decodeFrom st bs)
      ∧ Text.weight out + owed st ≤ 2 := by
  cases hlead : lead b with
  | whole c =>
    refine ⟨[c], none, nofun, fun bs => ?_, Text.weight_singleton_le c⟩
    rw [decodeFrom, hlead]
    rfl
  | start p =>
    refine ⟨[], some p, fun q hq => ?_, decodeFrom_start hlead,
      (by decide : 0 + 1 ≤ 2)⟩
    rw [← Option.mem_some.1 hq]
    exact regular_of_lead hlead
  | invalid =>
    refine ⟨[replacement], none, nofun, fun bs => ?_, by decide⟩
    rw [decodeFrom, hlead]
    rfl

/-- **An octet adds no more than two to what is read and owed.** -/
theorem exists_read (st : Option Pending) (b : UInt8) :
    ∃ (out : List Char) (st' : Option Pending), (∀ p ∈ st', p.Regular)
      ∧ (∀ bs, decodeFrom st (b :: bs) = out ++ decodeFrom st' bs)
      ∧ Text.weight out + owed st' ≤ owed st + 2 := by
  obtain _ | p := st
  · exact exists_read_none b
  by_cases hrange : p.low ≤ b ∧ b ≤ p.high
  · cases hnext : p.next b with
    | whole c =>
      refine ⟨[c], none, nofun, fun bs => ?_, (Text.weight_singleton_le c).trans
        (Nat.le_add_left 2 1)⟩
      rw [decodeFrom, if_pos hrange, hnext]
      rfl
    | start q =>
      refine ⟨[], some q, fun r hr => ?_, fun bs => ?_, (by decide : 0 + 1 ≤ 1 + 2)⟩
      · rw [← Option.mem_some.1 hr]
        exact regular_of_next hnext
      · rw [decodeFrom, if_pos hrange, hnext]
        rfl
    | invalid =>
      refine ⟨[replacement], none, nofun, fun bs => ?_, (by decide : 1 + 0 ≤ 1 + 2)⟩
      rw [decodeFrom, if_pos hrange, hnext]
      rfl
  · -- the replacement character was owed already
    obtain ⟨out, st', hst', hread, hweight⟩ := exists_read_none b
    refine ⟨replacement :: out, st', hst', fun bs => ?_, ?_⟩
    · rw [decodeFrom_some_of_not_range hrange, hread]
      rfl
    · show 1 + Text.weight out + owed st' ≤ 1 + 2
      omega

/-- A character of ASCII is one octet. -/
theorem utf8EncodeChar_of_lt {c : Char} (h : c.val.toNat < 128) :
    String.utf8EncodeChar c = [UInt8.ofNat c.val.toNat] := by
  unfold String.utf8EncodeChar
  dsimp only
  rw [if_pos (Nat.le_of_lt_succ h)]

/-- The first octet of a character begins one. -/
theorem exists_head_utf8EncodeChar (c : Char) : ∃ b bs, String.utf8EncodeChar c = b :: bs
    ∧ (b.toNat < 0x80 ∨ 0xC0 ≤ b.toNat) := by
  unfold String.utf8EncodeChar
  dsimp only
  split
  · exact ⟨_, _, rfl, Or.inl (by rw [UInt8.toNat_ofNat']; omega)⟩
  split
  · exact ⟨_, _, rfl, Or.inr (by rw [UInt8.toNat_ofNat']; omega)⟩
  split
  · exact ⟨_, _, rfl, Or.inr (by rw [UInt8.toNat_ofNat']; omega)⟩
  · exact ⟨_, _, rfl, Or.inr (by rw [UInt8.toNat_ofNat']; omega)⟩

/-- An octet of ASCII at the start of a text is its first character. -/
theorem exists_cons_of_encode {cs : List Char} {b : UInt8} {bs : List UInt8}
    (h : encode cs = b :: bs) (hb : b.toNat < 128) :
    ∃ c cs', cs = c :: cs' ∧ b.toNat = c.toNat ∧ encode cs' = bs := by
  cases cs with
  | nil => cases h
  | cons c cs' =>
    obtain ⟨b', tail, htail, -⟩ := exists_head_utf8EncodeChar c
    have hencode : String.utf8EncodeChar c ++ encode cs' = b :: bs := h
    rw [htail] at hencode
    obtain ⟨rfl, hbs⟩ := List.cons.inj hencode
    have hmem : b' ∈ String.utf8EncodeChar c := by
      rw [htail]
      exact List.mem_cons_self
    have hnat : b'.toNat = c.val.toNat :=
      (toNat_of_mem_utf8EncodeChar hmem).resolve_right (Nat.not_le.2 hb)
    rw [hnat] at hb
    rw [utf8EncodeChar_of_lt hb] at htail
    obtain ⟨-, rfl⟩ := List.cons.inj htail
    exact ⟨c, cs', rfl, hnat, hbs⟩

/-- **A character that is written breaks off one that has begun.** -/
theorem decodeFrom_some_utf8EncodeChar {p : Pending} (hp : p.Regular) (c : Char) (bs : List UInt8) :
    decodeFrom (some p) (String.utf8EncodeChar c ++ bs) = replacement :: c :: decodeFrom none bs := by
  obtain ⟨b, tail, hb, hfirst⟩ := exists_head_utf8EncodeChar c
  have hrange : ¬ (p.low ≤ b ∧ b ≤ p.high) := by
    obtain ⟨hlow, hhigh⟩ := hp
    rw [UInt8.le_iff_toNat_le] at hlow hhigh
    rintro ⟨hle, hge⟩
    rw [UInt8.le_iff_toNat_le] at hle hge
    have hlow : 0x80 ≤ p.low.toNat := hlow
    have hhigh : p.high.toNat ≤ 0xBF := hhigh
    omega
  rw [← decodeFrom_utf8EncodeChar, hb, List.cons_append, decodeFrom_some_of_not_range hrange]

/-- A character that is written adds its weight to what is read. -/
theorem weight_decodeFrom_utf8EncodeChar {st : Option Pending} (hst : ∀ p ∈ st, p.Regular) (c : Char)
    (bs : List UInt8) : Text.weight (decodeFrom st (String.utf8EncodeChar c ++ bs))
      = owed st + Text.weight (c :: decodeFrom none bs) := by
  obtain _ | p := st
  · rw [decodeFrom_utf8EncodeChar]
    exact (Nat.zero_add _).symm
  · rw [decodeFrom_some_utf8EncodeChar (hst p rfl)]
    rfl

end Utf8

/-! ## Escapes -/

namespace Percent

/-- Whether a character is a hexadecimal digit. -/
def isHexDigit (c : Char) : Bool :=
  (0x30 ≤ c.toNat && c.toNat ≤ 0x39) || (0x41 ≤ c.toNat && c.toNat ≤ 0x46)
    || (0x61 ≤ c.toNat && c.toNat ≤ 0x66)

/-- Whether a text starts with an escape: a percent sign and two hexadecimal digits. -/
def startsEscaped : List Char → Bool
  | c :: x :: y :: _ => c = '%' && isHexDigit x && isHexDigit y
  | _ => false

/-- **Whether a text holds an escape.** -/
def hasEscape : List Char → Bool
  | [] => false
  | c :: cs => startsEscaped (c :: cs) || hasEscape cs

/-- A character is a digit when its octet has the value of one. -/
theorem isSome_hexValue? {c : Char} {b : UInt8} (h : b.toNat = c.toNat) :
    (hexValue? b).isSome = isHexDigit c := by
  unfold hexValue? isHexDigit
  simp only [UInt8.le_iff_toNat_le, UInt8.reduceToNat, h]
  split_ifs <;> simp_all

theorem toNat_lt_of_isHexDigit {c : Char} (h : isHexDigit c) : c.val.toNat < 128 := by
  have hc : c.toNat = c.val.toNat := rfl
  simp only [isHexDigit, Bool.or_eq_true, Bool.and_eq_true, decide_eq_true_eq] at h
  omega

theorem toNat_lt_of_hexValue? {b : UInt8} (h : (hexValue? b).isSome) : b.toNat < 128 := by
  unfold hexValue? at h
  simp only [UInt8.le_iff_toNat_le, UInt8.reduceToNat] at h
  split_ifs at h
  · omega
  · omega
  · omega
  · cases h

theorem octet?_isSome_iff {a b : UInt8} :
    (octet? a b).isSome ↔ (hexValue? a).isSome ∧ (hexValue? b).isSome := by
  unfold octet?
  cases hexValue? a <;> cases hexValue? b <;> simp

theorem startsEscaped_iff {cs : List Char} : startsEscaped cs
    ↔ ∃ x y rest, cs = '%' :: x :: y :: rest ∧ isHexDigit x ∧ isHexDigit y := by
  constructor
  · intro h
    unfold startsEscaped at h
    split at h
    · simp only [Bool.and_eq_true, decide_eq_true_eq] at h
      obtain ⟨⟨rfl, hx⟩, hy⟩ := h
      exact ⟨_, _, _, rfl, hx, hy⟩
    · cases h
  · rintro ⟨x, y, rest, rfl, hx, hy⟩
    rw [startsEscaped, hx, hy]
    rfl

/-- An escape becomes one octet. -/
theorem unescape_encode_of_startsEscaped {x y : Char} (hx : isHexDigit x) (hy : isHexDigit y)
    (cs : List Char) :
    ∃ b, unescape (Utf8.encode ('%' :: x :: y :: cs)) = b :: unescape (Utf8.encode cs) := by
  have hdigit : ∀ c, isHexDigit c → String.utf8EncodeChar c = [UInt8.ofNat c.val.toNat]
      ∧ (hexValue? (UInt8.ofNat c.val.toNat)).isSome := by
    intro c hc
    have hlt := toNat_lt_of_isHexDigit hc
    refine ⟨Utf8.utf8EncodeChar_of_lt hlt, ?_⟩
    have hnat : (UInt8.ofNat c.val.toNat).toNat = c.val.toNat := by
      rw [UInt8.toNat_ofNat']
      omega
    rw [isSome_hexValue? (c := c) hnat]
    exact hc
  obtain ⟨b, hb⟩ := Option.isSome_iff_exists.1
    (octet?_isSome_iff.2 ⟨(hdigit x hx).2, (hdigit y hy).2⟩)
  refine ⟨b, ?_⟩
  show unescape (0x25 :: (String.utf8EncodeChar x ++ (String.utf8EncodeChar y ++ Utf8.encode cs))) = _
  rw [(hdigit x hx).1, (hdigit y hy).1]
  exact unescape_octet hb _

/-- A character that starts no escape stands for itself. -/
theorem unescape_encode_cons {c : Char} {cs : List Char} (h : startsEscaped (c :: cs) = false) :
    unescape (Utf8.encode (c :: cs)) = String.utf8EncodeChar c ++ unescape (Utf8.encode cs) := by
  by_cases hc : c = '%'
  · subst hc
    show unescape (0x25 :: Utf8.encode cs) = 0x25 :: unescape (Utf8.encode cs)
    match hcs : Utf8.encode cs with
    | [] => rfl
    | [_] => rfl
    | x :: y :: bs =>
      cases hoctet : octet? x y with
      | none => rw [unescape, hoctet]
      | some o =>
        -- octets of digits are digits, and there was an escape
        obtain ⟨hx, hy⟩ := octet?_isSome_iff.1 (Option.isSome_iff_exists.2 ⟨o, hoctet⟩)
        obtain ⟨x', cs, rfl, hx', hcs⟩ := Utf8.exists_cons_of_encode hcs (toNat_lt_of_hexValue? hx)
        obtain ⟨y', cs, rfl, hy', -⟩ := Utf8.exists_cons_of_encode hcs (toNat_lt_of_hexValue? hy)
        rw [isSome_hexValue? hx'] at hx
        rw [isSome_hexValue? hy'] at hy
        rw [startsEscaped_iff.2 ⟨x', y', cs, rfl, hx, hy⟩] at h
        cases h
  · exact unescape_append_of_forall_ne (ne_percent_of_mem hc) _

/-- A text without escapes is decoded to itself. -/
theorem decode_of_not_hasEscape {cs : List Char} (h : hasEscape cs = false) : decode cs = cs := by
  have hunescape : unescape (Utf8.encode cs) = Utf8.encode cs := by
    induction cs with
    | nil => rfl
    | cons c cs ih =>
      obtain ⟨hstart, hcs⟩ := Bool.or_eq_false_iff.1 h
      rw [unescape_encode_cons hstart, ih hcs]
      rfl
  rw [decode, hunescape, Utf8.decodeLossy_encode]

/-- **Decoding adds nothing to what is read and owed**, and escapes are lighter undone. -/
theorem weight_decodeFrom_unescape (cs : List Char) (st : Option Utf8.Pending)
    (hst : ∀ p ∈ st, p.Regular) :
    Text.weight (Utf8.decodeFrom st (unescape (Utf8.encode cs))) + (hasEscape cs).toNat
      ≤ Utf8.owed st + Text.weight cs := by
  induction hn : cs.length using Nat.strong_induction_on generalizing cs st with
  | _ n ih =>
  cases cs with
  | nil => cases st <;> exact Nat.le_refl _
  | cons c cs =>
    cases hstart : startsEscaped (c :: cs) with
    | false =>
      have hcs := ih cs.length (by rw [← hn]; exact Nat.lt_succ_self _) cs none nofun rfl
      rw [unescape_encode_cons hstart, Utf8.weight_decodeFrom_utf8EncodeChar hst, hasEscape, hstart,
        Bool.false_or, Text.weight, Text.weight]
      rw [Utf8.owed] at hcs
      omega
    | true =>
      obtain ⟨x, y, rest, heq, hx, hy⟩ := startsEscaped_iff.1 hstart
      rw [heq] at hn ⊢
      obtain ⟨b, hb⟩ := unescape_encode_of_startsEscaped hx hy rest
      obtain ⟨out, st', hst', hread, hweight⟩ := Utf8.exists_read st b
      have hrest := ih rest.length (by rw [← hn]; simp only [List.length_cons]; omega) rest st' hst' rfl
      have hone : (hasEscape ('%' :: x :: y :: rest)).toNat ≤ 1 := Bool.toNat_le _
      rw [hb, hread, Text.weight_append]
      rw [Text.weight, Text.weight, Text.weight]
      split_ifs <;> omega

/-- **What is decoded is no heavier**, and lighter if there was an escape. -/
theorem weight_decode (cs : List Char) :
    Text.weight (decode cs) + (hasEscape cs).toNat ≤ Text.weight cs := by
  have h := weight_decodeFrom_unescape cs none nofun
  rwa [Utf8.owed, Nat.zero_add] at h

/-- A character that no escape holds ends those before it. -/
theorem hasEscape_append {sep : Char} (hpercent : sep ≠ '%') (hdigit : isHexDigit sep = false)
    (a b : List Char) : hasEscape (a ++ sep :: b) = (hasEscape a || hasEscape b) := by
  have hsep : ∀ cs, startsEscaped (sep :: cs) = false := by
    intro cs
    rw [Bool.eq_false_iff, ne_eq, startsEscaped_iff]
    rintro ⟨x, y, rest, heq, -⟩
    exact hpercent (List.cons.inj heq).1
  have hstart : ∀ c a, startsEscaped (c :: (a ++ sep :: b)) = startsEscaped (c :: a) := by
    rintro c (_ | ⟨x, _ | ⟨y, a⟩⟩)
    · cases b <;> simp [startsEscaped, hdigit]
    · simp [startsEscaped, hdigit]
    · rfl
  induction a with
  | nil =>
    show (startsEscaped (sep :: b) || hasEscape b) = (false || hasEscape b)
    rw [hsep]
  | cons c a ih => rw [List.cons_append, hasEscape, hasEscape, hstart, ih, Bool.or_assoc]

end Percent

/-! ## Plus signs, and both -/

namespace Query

/-- A text with its plus signs as spaces. -/
def spaced (cs : List Char) : List Char :=
  cs.map fun c => if c = '+' then ' ' else c

/-- A plus that becomes a space is lighter by one. -/
theorem weight_spaced (cs : List Char) :
    Text.weight (spaced cs) + cs.count '+' = Text.weight cs := by
  induction cs with
  | nil => rfl
  | cons c cs ih =>
    have hcons : spaced (c :: cs) = (if c = '+' then ' ' else c) :: spaced cs := rfl
    rw [hcons, Text.weight, Text.weight, List.count_cons, ← ih]
    by_cases hc : c = '+'
    · subst hc
      show 1 + Text.weight (spaced cs) + (cs.count '+' + 1)
        = 2 + (Text.weight (spaced cs) + cs.count '+')
      omega
    · rw [if_neg hc, if_neg hc, if_neg (mt beq_iff_eq.1 hc)]
      exact Nat.add_assoc _ _ _

/-- Plus signs and spaces are in no escape. -/
theorem hasEscape_spaced (cs : List Char) :
    Percent.hasEscape (spaced cs) = Percent.hasEscape cs := by
  have hdigit : ∀ c : Char, Percent.isHexDigit (if c = '+' then ' ' else c)
      = Percent.isHexDigit c := by
    intro c
    split
    next hc => subst hc; rfl
    next => rfl
  have hpercent : ∀ c : Char, (if c = '+' then ' ' else c) = '%' ↔ c = '%' := by
    intro c
    split
    next hc => subst hc; decide
    next => rfl
  have hstart : ∀ cs, Percent.startsEscaped (spaced cs) = Percent.startsEscaped cs := by
    rintro (_ | ⟨c, _ | ⟨x, _ | ⟨y, cs⟩⟩⟩)
    · rfl
    · rfl
    · rfl
    · simp only [spaced, List.map_cons, Percent.startsEscaped, hdigit, hpercent]
  induction cs with
  | nil => rfl
  | cons c cs ih =>
    have hcons : spaced (c :: cs) = (if c = '+' then ' ' else c) :: spaced cs := rfl
    rw [hcons, Percent.hasEscape, ← hcons, hstart, ih, Percent.hasEscape]

/-- **A verbatim text** holds no plus and no escape. -/
def Verbatim (cs : List Char) : Prop :=
  '+' ∉ cs ∧ Percent.hasEscape cs = false

instance (cs : List Char) : Decidable (Verbatim cs) :=
  inferInstanceAs (Decidable (_ ∧ _))

/-- **A verbatim text is read as it is.** -/
theorem unplus_of_verbatim {cs : List Char} (h : Verbatim cs) : unplus cs = cs := by
  have hspaced : spaced cs = cs := by
    have hne : ∀ c ∈ cs, (if c = '+' then ' ' else c) = id c := by
      intro c hc
      refine if_neg ?_
      rintro rfl
      exact h.1 hc
    exact (List.map_congr_left hne).trans (List.map_id cs)
  show Percent.decode (spaced cs) = cs
  rw [hspaced, Percent.decode_of_not_hasEscape h.2]

/-- **Any other text is read as a lighter one.** -/
theorem weight_unplus_lt {cs : List Char} (h : ¬ Verbatim cs) :
    Text.weight (unplus cs) < Text.weight cs := by
  have hdecode := Percent.weight_decode (spaced cs)
  have hspaced := weight_spaced cs
  rw [hasEscape_spaced] at hdecode
  show Text.weight (Percent.decode (spaced cs)) < _
  by_cases hplus : '+' ∈ cs
  · have := List.count_pos_iff.2 hplus
    omega
  · have hescape : Percent.hasEscape cs = true := by
      rw [← Bool.not_eq_false]
      exact fun hnone => h ⟨hplus, hnone⟩
    rw [hescape, Bool.toNat_true] at hdecode
    omega

theorem weight_unplus_le (cs : List Char) : Text.weight (unplus cs) ≤ Text.weight cs := by
  by_cases h : Verbatim cs
  · rw [unplus_of_verbatim h]
  · exact (weight_unplus_lt h).le

/-- Texts with a separator between them are verbatim when both are. -/
theorem verbatim_append {sep : Char} (hplus : sep ≠ '+') (hpercent : sep ≠ '%')
    (hdigit : Percent.isHexDigit sep = false) (a b : List Char) :
    Verbatim (a ++ sep :: b) ↔ Verbatim a ∧ Verbatim b := by
  unfold Verbatim
  rw [Percent.hasEscape_append hpercent hdigit, Bool.or_eq_false_iff, List.mem_append,
    List.mem_cons, not_or, not_or]
  constructor
  · rintro ⟨⟨ha, -, hb⟩, ha', hb'⟩
    exact ⟨⟨ha, ha'⟩, hb, hb'⟩
  · rintro ⟨⟨ha, ha'⟩, hb, hb'⟩
    exact ⟨⟨ha, hplus.symm, hb⟩, ha', hb'⟩

end Query

end Switchboard
