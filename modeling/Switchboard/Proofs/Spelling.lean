import Mathlib.Tactic.IntervalCases
import Switchboard.Query
import Switchboard.Proofs.Segments

/-!
# Paths and queries that are written differently

One request can be written in many ways. A path may have slashes that separate nothing, and each of its
characters may be written as it is or as the escapes of its octets. A query may hold parameters that
are never asked for, and a parameter again under a key that has a value already.

What is read is the same. Slashes separate and do nothing else (`Path.decodedSegments_append`), and a
segment is decoded to the text that was written, whatever way it was (`Path.Writes`,
`Path.decodeSegment_of_writes`); encoding is one such way, so what is encoded is decoded
(`Percent.decode_encode`). Decoding goes through octets, so this needs that the lenient reading
of UTF-8 reads what was written (`Utf8.decodeLossy_encode`): each octet after the first lies in the
range that the octets before it leave (`Utf8.Tail`), also where that range is a narrow one. The value
of a key is the one of its first parameter, so a later one does not count (`Query.value?_insert`), nor
does the order of parameters with different keys (`Query.value?_perm`).
-/

namespace Switchboard

/-! ## UTF-8, written and read -/

namespace Utf8

/-- The role of an octet that begins a character, by the bits it carries. -/
theorem lead_one {n : Nat} (h : n < 128) : lead (UInt8.ofNat n) = .whole (Char.ofNat n) := by
  have hn : (UInt8.ofNat n).toNat = n := by
    rw [UInt8.toNat_ofNat']
    omega
  have hlt : UInt8.ofNat n < 0x80 := by
    rw [UInt8.lt_iff_toNat_lt, hn]
    exact h
  rw [lead, if_pos hlt, hn]

theorem lead_two {n : Nat} (h : n < 32) (hlong : 2 ≤ n) :
    lead (UInt8.ofNat (n + 192)) = .start ⟨0, n, 0x80, 0xBF⟩ := by
  interval_cases n <;> rfl

theorem lead_three {n : Nat} (h : n < 16) : lead (UInt8.ofNat (n + 224))
    = .start ⟨1, n, if n = 0 then 0xA0 else 0x80, if n = 13 then 0x9F else 0xBF⟩ := by
  interval_cases n <;> rfl

theorem lead_four {n : Nat} (h : n < 5) : lead (UInt8.ofNat (n + 240))
    = .start ⟨2, n, if n = 0 then 0x90 else 0x80, if n = 4 then 0x8F else 0xBF⟩ := by
  interval_cases n <;> rfl

/-- The bits of an octet that may go on with a character: six of them, in the range that the octets
before it leave. -/
def Tail (low high : UInt8) (n : Nat) : Prop :=
  n < 64 ∧ low.toNat ≤ n + 128 ∧ n + 128 ≤ high.toNat

theorem tail_of_lt {n : Nat} (h : n < 64) : Tail 0x80 0xBF n :=
  ⟨h, Nat.le_add_left 128 n, Nat.add_le_add_right (Nat.le_of_lt_succ h) 128⟩

theorem decodeFrom_start {b : UInt8} {p : Pending} (h : lead b = .start p) (bs : List UInt8) :
    decodeFrom none (b :: bs) = decodeFrom (some p) bs := by
  rw [decodeFrom, h]

/-- An octet in its range is the last of a character or goes on with it, by six bits. -/
theorem decodeFrom_tail {p : Pending} {n : Nat} (h : Tail p.low p.high n) (bs : List UInt8) :
    decodeFrom (some p) (UInt8.ofNat (n + 128) :: bs)
      = match p.owed with
        | 0 => Char.ofNat (p.value * 64 + n) :: decodeFrom none bs
        | owed + 1 => decodeFrom (some ⟨owed, p.value * 64 + n, 0x80, 0xBF⟩) bs := by
  obtain ⟨hn, hlow, hhigh⟩ := h
  have hoctet : (UInt8.ofNat (n + 128)).toNat = n + 128 := by
    rw [UInt8.toNat_ofNat']
    omega
  have hrange : p.low ≤ UInt8.ofNat (n + 128) ∧ UInt8.ofNat (n + 128) ≤ p.high := by
    rw [UInt8.le_iff_toNat_le, UInt8.le_iff_toNat_le, hoctet]
    exact ⟨hlow, hhigh⟩
  rw [decodeFrom, if_pos hrange, Pending.next, hoctet, Nat.add_sub_cancel]
  cases p.owed <;> rfl

theorem decodeFrom_last {value n : Nat} {low high : UInt8} (h : Tail low high n) (bs : List UInt8) :
    decodeFrom (some ⟨0, value, low, high⟩) (UInt8.ofNat (n + 128) :: bs)
      = Char.ofNat (value * 64 + n) :: decodeFrom none bs :=
  decodeFrom_tail h bs

theorem decodeFrom_more {owed value n : Nat} {low high : UInt8} (h : Tail low high n)
    (bs : List UInt8) :
    decodeFrom (some ⟨owed + 1, value, low, high⟩) (UInt8.ofNat (n + 128) :: bs)
      = decodeFrom (some ⟨owed, value * 64 + n, 0x80, 0xBF⟩) bs :=
  decodeFrom_tail h bs

/-- The second of three octets is in its range: the character is not short enough for two, and is no
surrogate. -/
theorem tail_of_three {v : Nat} (hlong : 0x7FF < v) (hv : v ≤ 0xFFFF)
    (hvalid : v < 0xD800 ∨ 0xDFFF < v) :
    Tail (if v / 4096 % 16 = 0 then 0xA0 else 0x80) (if v / 4096 % 16 = 13 then 0x9F else 0xBF)
      (v / 64 % 64) := by
  have hn : v / 64 % 64 < 64 := Nat.mod_lt _ (by decide)
  refine ⟨hn, ?_, ?_⟩
  · split
    · show 0xA0 ≤ _
      omega
    · exact (tail_of_lt hn).2.1
  · split
    · show _ ≤ 0x9F
      omega
    · exact (tail_of_lt hn).2.2

/-- The second of four octets is in its range: the character is not short enough for three, and is
one. -/
theorem tail_of_four {v : Nat} (hlong : 0xFFFF < v) (hv : v < 0x110000) :
    Tail (if v / 262144 % 8 = 0 then 0x90 else 0x80) (if v / 262144 % 8 = 4 then 0x8F else 0xBF)
      (v / 4096 % 64) := by
  have hn : v / 4096 % 64 < 64 := Nat.mod_lt _ (by decide)
  refine ⟨hn, ?_, ?_⟩
  · split
    · show 0x90 ≤ _
      omega
    · exact (tail_of_lt hn).2.1
  · split
    · show _ ≤ 0x8F
      omega
    · exact (tail_of_lt hn).2.2

/-- **A character is read from its octets**, whatever follows. -/
theorem decodeFrom_utf8EncodeChar (c : Char) (bs : List UInt8) :
    decodeFrom none (String.utf8EncodeChar c ++ bs) = c :: decodeFrom none bs := by
  have hc : Char.ofNat c.val.toNat = c := Char.ofNat_toNat c
  have hvalid : c.val.toNat < 0xD800 ∨ 0xDFFF < c.val.toNat ∧ c.val.toNat < 0x110000 := c.valid
  have hbits : ∀ n, n % 64 < 64 := fun n => Nat.mod_lt n (by decide)
  unfold String.utf8EncodeChar
  dsimp only
  generalize c.val.toNat = v at hc hvalid
  split
  -- one octet, then two, three and four
  · show decodeFrom none (UInt8.ofNat v :: bs) = _
    rw [decodeFrom, lead_one (by omega), hc]
  split
  · show decodeFrom none (_ :: _ :: bs) = _
    have hv : v / 64 % 32 * 64 + v % 64 = v := by omega
    rw [decodeFrom_start (lead_two (by omega) (by omega)), decodeFrom_last (tail_of_lt (hbits v)),
      hv, hc]
  split
  · show decodeFrom none (_ :: _ :: _ :: bs) = _
    have hv : (v / 4096 % 16 * 64 + v / 64 % 64) * 64 + v % 64 = v := by omega
    rw [decodeFrom_start (lead_three (by omega)),
      decodeFrom_more (tail_of_three (by omega) (by omega) (by omega)),
      decodeFrom_last (tail_of_lt (hbits v)), hv, hc]
  · show decodeFrom none (_ :: _ :: _ :: _ :: bs) = _
    have hv : ((v / 262144 % 8 * 64 + v / 4096 % 64) * 64 + v / 64 % 64) * 64 + v % 64 = v := by
      omega
    rw [decodeFrom_start (lead_four (by omega)),
      decodeFrom_more (tail_of_four (by omega) (by omega)),
      decodeFrom_more (tail_of_lt (hbits _)), decodeFrom_last (tail_of_lt (hbits v)), hv, hc]

/-- **What is written is read.** -/
theorem decodeLossy_encode (cs : List Char) : decodeLossy (encode cs) = cs := by
  induction cs with
  | nil => rfl
  | cons c cs ih =>
    unfold decodeLossy encode at *
    rw [List.flatMap_cons, decodeFrom_utf8EncodeChar, ih]

/-- The octets of a character are its own number, or none that a character of ASCII has. -/
theorem toNat_of_mem_utf8EncodeChar {c : Char} {b : UInt8} (h : b ∈ String.utf8EncodeChar c) :
    b.toNat = c.val.toNat ∨ 128 ≤ b.toNat := by
  unfold String.utf8EncodeChar at h
  dsimp only at h
  split at h
  · left
    rw [List.mem_singleton.1 h, UInt8.toNat_ofNat']
    omega
  right
  split at h
  · simp only [List.mem_cons, List.not_mem_nil, or_false] at h
    rcases h with rfl | rfl <;> rw [UInt8.toNat_ofNat'] <;> omega
  split at h
  · simp only [List.mem_cons, List.not_mem_nil, or_false] at h
    rcases h with rfl | rfl | rfl <;> rw [UInt8.toNat_ofNat'] <;> omega
  · simp only [List.mem_cons, List.not_mem_nil, or_false] at h
    rcases h with rfl | rfl | rfl | rfl <;> rw [UInt8.toNat_ofNat'] <;> omega

end Utf8

/-! ## Escapes -/

namespace Percent

theorem unescape_cons_of_ne {b : UInt8} (h : b ≠ 0x25) (bs : List UInt8) :
    unescape (b :: bs) = b :: unescape bs := by
  match bs with
  | [] => rfl
  | [_] => rfl
  | x :: y :: bs =>
    rw [unescape]
    split
    · rw [if_neg h]
    · rfl

theorem unescape_append_of_forall_ne {bs : List UInt8} (h : ∀ b ∈ bs, b ≠ 0x25) (rest : List UInt8) :
    unescape (bs ++ rest) = bs ++ unescape rest := by
  induction bs with
  | nil => rfl
  | cons b bs ih =>
    rw [List.forall_mem_cons] at h
    rw [List.cons_append, unescape_cons_of_ne h.1, ih h.2, List.cons_append]

theorem unescape_octet {x y b : UInt8} (h : octet? x y = some b) (bs : List UInt8) :
    unescape (0x25 :: x :: y :: bs) = b :: unescape bs := by
  rw [unescape, h]
  rfl

/-- Only a percent sign is written with the octet of one. -/
theorem ne_percent_of_mem {c : Char} (hc : c ≠ '%') : ∀ b ∈ String.utf8EncodeChar c, b ≠ 0x25 := by
  rintro b hb rfl
  rcases Utf8.toNat_of_mem_utf8EncodeChar hb with h | h
  · exact hc (Char.ext (UInt32.toNat_inj.1 h.symm))
  · exact absurd h (by decide)

/-- **Octets written as escapes**, with digits of either case. -/
inductive Escapes : List UInt8 → List Char → Prop where
  /-- No octets. -/
  | nil : Escapes [] []
  /-- A percent sign and two digits that stand for the first octet, then the others. -/
  | cons {b x y : UInt8} {bs : List UInt8} {high low : Char} {cs : List Char}
    (digits : Utf8.encode [high, low] = [x, y]) (octet : octet? x y = some b)
    (rest : Escapes bs cs) : Escapes (b :: bs) ('%' :: high :: low :: cs)

theorem Escapes.unescape_append {bs : List UInt8} {cs : List Char} (h : Escapes bs cs)
    (rest : List UInt8) : unescape (Utf8.encode cs ++ rest) = bs ++ unescape rest := by
  induction h with
  | nil => rfl
  | @cons b x y bs high low cs digits octet _ ih =>
    have hencode : Utf8.encode ('%' :: high :: low :: cs)
        = 0x25 :: (Utf8.encode [high, low] ++ Utf8.encode cs) := by
      unfold Utf8.encode
      simp [String.utf8EncodeChar]
    rw [hencode, digits]
    show unescape (0x25 :: x :: y :: (Utf8.encode cs ++ rest)) = _
    rw [unescape_octet octet, ih, List.cons_append]

/-- **A way to write a text**: each character is written as it is, unless it is a percent sign, or as
the escapes of its octets. -/
inductive Spells : List Char → List Char → Prop where
  /-- The empty text. -/
  | nil : Spells [] []
  /-- A character that stands for itself. -/
  | plain {c : Char} {cs ws : List Char} (unescaped : c ≠ '%') (rest : Spells cs ws) :
    Spells (c :: cs) (c :: ws)
  /-- A character that is escaped. -/
  | escaped {c : Char} {cs es ws : List Char} (escapes : Escapes (String.utf8EncodeChar c) es)
    (rest : Spells cs ws) : Spells (c :: cs) (es ++ ws)

theorem Spells.unescape_eq {cs ws : List Char} (h : Spells cs ws) :
    unescape (Utf8.encode ws) = Utf8.encode cs := by
  induction h with
  | nil => rfl
  | @plain c cs ws hc _ ih =>
    show unescape (String.utf8EncodeChar c ++ Utf8.encode ws) = _
    rw [unescape_append_of_forall_ne (ne_percent_of_mem hc), ih]
    rfl
  | @escaped c cs es ws escapes _ ih =>
    have hencode : Utf8.encode (es ++ ws) = Utf8.encode es ++ Utf8.encode ws :=
      List.flatMap_append
    rw [hencode, escapes.unescape_append, ih]
    rfl

/-- **Whatever way a text is written, it is decoded.** -/
theorem Spells.decode_eq {cs ws : List Char} (h : Spells cs ws) : decode ws = cs := by
  unfold decode
  rw [h.unescape_eq, Utf8.decodeLossy_encode]

theorem hexValue?_hexDigit {n : Nat} (h : n < 16) :
    ∃ x, String.utf8EncodeChar (hexDigit n) = [x] ∧ hexValue? x = some (UInt8.ofNat n) := by
  interval_cases n <;> exact ⟨_, rfl, rfl⟩

/-- The digits of an octet stand for it. -/
theorem octet?_hexDigit (b : UInt8) : ∃ x y, octet? x y = some b
    ∧ Utf8.encode [hexDigit (b.toNat / 16), hexDigit (b.toNat % 16)] = [x, y] := by
  have hb : b.toNat < 256 := b.toNat_lt
  obtain ⟨x, hx, hhigh⟩ := hexValue?_hexDigit (n := b.toNat / 16) (by omega)
  obtain ⟨y, hy, hlow⟩ := hexValue?_hexDigit (n := b.toNat % 16) (by omega)
  have hsum : UInt8.ofNat (b.toNat / 16) * 16 + UInt8.ofNat (b.toNat % 16) = b := by
    rw [← UInt8.toNat_inj]
    simp only [UInt8.toNat_add, UInt8.toNat_mul, UInt8.toNat_ofNat', UInt8.reduceToNat]
    omega
  refine ⟨x, y, ?_, ?_⟩
  · unfold octet?
    rw [hhigh, hlow]
    exact congrArg some hsum
  · show String.utf8EncodeChar _ ++ (String.utf8EncodeChar _ ++ []) = _
    rw [hx, hy]
    rfl

theorem escapes_flatMap_escape (bs : List UInt8) : Escapes bs (bs.flatMap escape) := by
  induction bs with
  | nil => exact .nil
  | cons b bs ih =>
    obtain ⟨x, y, hoctet, hdigits⟩ := octet?_hexDigit b
    exact .cons hdigits hoctet ih

/-- Encoding is a way to write a text, if percent signs are encoded. -/
theorem spells_encode {allowed : Char → Bool} (h : allowed '%' = false) (cs : List Char) :
    Spells cs (encode allowed cs) := by
  induction cs with
  | nil => exact .nil
  | cons c cs ih =>
    unfold encode
    rw [List.flatMap_cons]
    split
    next hplain =>
      -- a character that is let through is no percent sign
      refine .plain ?_ ih
      rintro rfl
      rw [h, Bool.and_false] at hplain
      cases hplain
    next => exact .escaped (escapes_flatMap_escape _) ih

/-- **What is encoded is decoded.** -/
theorem decode_encode {allowed : Char → Bool} (h : allowed '%' = false) (cs : List Char) :
    decode (encode allowed cs) = cs :=
  (spells_encode h cs).decode_eq

end Percent

/-! ## Slashes -/

namespace Text

/-- A separator ends the fields before it. -/
theorem fields_append (sep : Char) (a b : List Char) :
    fields sep (a ++ sep :: b) = fields sep a ++ fields sep b := by
  induction a with
  | nil =>
    show (if sep = sep then [] :: fields sep b else _) = _
    rw [if_pos rfl]
    rfl
  | cons c a ih =>
    rw [List.cons_append, fields, fields, ih]
    split
    · rfl
    · obtain ⟨field, rest, h⟩ := List.exists_cons_of_ne_nil (fields_ne_nil sep a)
      rw [h]
      rfl

theorem filledFields_append (sep : Char) (a b : List Char) :
    filledFields sep (a ++ sep :: b) = filledFields sep a ++ filledFields sep b := by
  unfold filledFields
  rw [fields_append, List.filter_append]

/-- A text without separators is its only field. -/
theorem fields_of_not_mem {sep : Char} {cs : List Char} (h : sep ∉ cs) : fields sep cs = [cs] := by
  induction cs with
  | nil => rfl
  | cons c cs ih =>
    rw [List.mem_cons, not_or] at h
    rw [fields, if_neg (Ne.symm h.1), ih h.2]
    rfl

/-- No field holds a separator. -/
theorem not_mem_of_mem_fields {sep : Char} {cs f : List Char} (h : f ∈ fields sep cs) : sep ∉ f := by
  induction cs generalizing f with
  | nil => simp [List.mem_singleton.1 h]
  | cons c cs ih =>
    rw [fields] at h
    split at h
    next =>
      rcases List.mem_cons.1 h with rfl | h
      · exact List.not_mem_nil
      · exact ih h
    next hc =>
      obtain ⟨field, rest, hfields⟩ := List.exists_cons_of_ne_nil (fields_ne_nil sep cs)
      rw [hfields] at h ih
      rcases List.mem_cons.1 h with rfl | h
      · simpa [Ne.symm hc] using ih List.mem_cons_self
      · exact ih (List.mem_cons_of_mem field h)

end Text

namespace Path

/-- **A slash separates**, and does nothing else. -/
theorem segments_append (p q : String) : segments (p ++ "/" ++ q) = segments p ++ segments q := by
  unfold segments
  have hslash : (p ++ "/" ++ q).toList = p.toList ++ '/' :: q.toList := by
    rw [String.toList_append, String.toList_append, List.append_assoc]
    simp
  rw [hslash, Text.filledFields_append, List.map_append]

theorem decodedSegments_append (p q : String) :
    decodedSegments (p ++ "/" ++ q) = decodedSegments p ++ decodedSegments q := by
  unfold decodedSegments
  rw [segments_append, List.map_append]

theorem decodedSegments_empty : decodedSegments "" = [] := by
  decide

/-- **Slashes that separate nothing do nothing**: one in front, one at the end, and a second one. -/
theorem decodedSegments_leading (p : String) : decodedSegments ("/" ++ p) = decodedSegments p := by
  have hleading := decodedSegments_append "" p
  rwa [String.empty_append, decodedSegments_empty, List.nil_append] at hleading

theorem decodedSegments_trailing (p : String) : decodedSegments (p ++ "/") = decodedSegments p := by
  have htrailing := decodedSegments_append p ""
  rwa [String.append_empty, decodedSegments_empty, List.append_nil] at htrailing

theorem decodedSegments_doubled (p q : String) :
    decodedSegments (p ++ "//" ++ q) = decodedSegments (p ++ "/" ++ q) := by
  have hslashes : "//" = "/" ++ "/" := by decide
  rw [hslashes, ← String.append_assoc, decodedSegments_append, decodedSegments_trailing,
    decodedSegments_append]

/-- What is written with slashes between the parts has the segments of the parts. -/
theorem segments_intercalate (parts : List String) :
    segments (String.intercalate "/" parts) = parts.flatMap segments := by
  induction parts with
  | nil => decide
  | cons p parts ih =>
    cases parts with
    | nil => rw [String.intercalate_singleton, List.flatMap_singleton]
    | cons q parts =>
      rw [String.intercalate_cons_cons, segments_append, ih]
      rfl

/-- A segment of a path is a path of one segment. -/
theorem segments_of_mem {path segment : String} (h : segment ∈ segments path) :
    segments segment = [segment] := by
  have hfilled := ne_empty_of_mem_segments h
  obtain ⟨cs, hcs, rfl⟩ := List.mem_map.1 h
  have hslash : '/' ∉ cs := Text.not_mem_of_mem_fields (List.mem_filter.1 hcs).1
  unfold segments Text.filledFields
  rw [String.toList_ofList, Text.fields_of_not_mem hslash, List.filter_cons_of_pos]
  · rfl
  · exact (List.mem_filter.1 hcs).2

/-- **Segments of a path, written as a path again**, are its segments. -/
theorem segments_rejoined {path : String} {parts : List String} (h : parts ⊆ segments path) :
    segments (String.intercalate "/" parts) = parts := by
  rw [segments_intercalate, List.flatMap_congr (fun part hpart => segments_of_mem (h hpart)),
    List.flatMap_singleton']

/-- **A way to write a segment**: no slash, and its text, escaped or not. -/
def Writes (text written : String) : Prop :=
  '/' ∉ written.toList ∧ Percent.Spells text.toList written.toList

theorem decodeSegment_of_writes {text written : String} (h : Writes text written) :
    decodeSegment written = text := by
  unfold decodeSegment
  rw [h.2.decode_eq, String.ofList_toList]

/-- A part of a path is one segment, or none if it is empty. -/
theorem decodedSegments_of_writes {text written : String} (h : Writes text written) :
    decodedSegments written = [text].filter (· ≠ "") := by
  have hdecode := decodeSegment_of_writes h
  unfold decodedSegments segments Text.filledFields
  rw [Text.fields_of_not_mem h.1]
  by_cases hempty : written = ""
  · subst hempty
    rw [← hdecode]
    decide
  · -- what holds something is decoded to something
    have hfilled : written.toList ≠ [] := fun hnil => hempty (String.toList_eq_nil_iff.1 hnil)
    have htext : text ≠ "" := hdecode ▸ decodeSegment_ne_empty hempty
    rw [List.filter_cons_of_pos (by simpa using hfilled),
      List.filter_cons_of_pos (by simpa using htext)]
    show [decodeSegment (String.ofList written.toList)] = [text]
    rw [String.ofList_toList, hdecode]

/-- **What is read of a path are the texts that were written**, in any way, less the empty ones. -/
theorem decodedSegments_intercalate {texts written : List String}
    (h : List.Forall₂ Writes texts written) :
    decodedSegments (String.intercalate "/" written) = texts.filter (· ≠ "") := by
  induction h with
  | nil => exact decodedSegments_empty
  | @cons text w texts ws hw htail ih =>
    cases htail with
    | nil =>
      rw [String.intercalate_singleton]
      exact decodedSegments_of_writes hw
    | cons hw' htail =>
      rw [String.intercalate_cons_cons, decodedSegments_append, ih, decodedSegments_of_writes hw,
        ← List.filter_append]
      rfl

end Path

/-! ## Parameters -/

namespace Query

/-- **A parameter counts only if it is the first with its key.** -/
theorem value?_insert {before after : Query} {param : String × String} {key : String}
    (h : Ascii.Same param.1 key → ∃ p ∈ before, Ascii.Same p.1 key) :
    value? (before ++ param :: after) key = value? (before ++ after) key := by
  unfold value?
  rw [List.find?_append, List.find?_append, List.find?_cons]
  split
  next hparam =>
    -- the first part answers already
    obtain ⟨p, hp, hkey⟩ := h (of_decide_eq_true hparam)
    have hsome : (before.find? fun p => decide (Ascii.Same p.1 key)).isSome :=
      List.find?_isSome.2 ⟨p, hp, decide_eq_true hkey⟩
    rw [Option.or_of_isSome hsome, Option.or_of_isSome hsome]
  next => rfl

/-- **The order of parameters with different keys does not count.** -/
theorem value?_perm {q q' : Query} (hperm : q.Perm q')
    (hkeys : q.Pairwise fun a b => ¬ Ascii.Same a.1 b.1) (key : String) :
    q.value? key = q'.value? key := by
  have hfilter := hperm.filter fun p => decide (Ascii.Same p.1 key)
  have hdistinct := hkeys.filter fun p => decide (Ascii.Same p.1 key)
  have hkey : ∀ p ∈ q.filter fun p => decide (Ascii.Same p.1 key), Ascii.Same p.1 key :=
    fun p hp => of_decide_eq_true (List.mem_filter.1 hp).2
  unfold value?
  rw [← List.head?_filter, ← List.head?_filter]
  generalize (q.filter fun p => decide (Ascii.Same p.1 key)) = found at hfilter hdistinct hkey ⊢
  match found with
  | [] => rw [List.nil_perm.1 hfilter]
  | [p] => rw [List.singleton_perm.1 hfilter]
  | a :: b :: _ =>
    have ha := hkey a List.mem_cons_self
    have hb := hkey b (List.mem_cons_of_mem a List.mem_cons_self)
    exact absurd (ha.trans hb.symm) (List.rel_of_pairwise_cons hdistinct List.mem_cons_self)

end Query

end Switchboard
