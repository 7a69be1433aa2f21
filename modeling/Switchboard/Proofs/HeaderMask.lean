import Switchboard.HeaderMask

/-!
# Header masks as sets of positions

A mask is a list of words, and what it means is the set of its positions. All that is done with
masks is read through that set: setting a position adds it and nothing else (`contains_set`),
the mask of a list has the positions of the list (`contains_ofBits`), and the comparison of
words is the inclusion of the sets (`isSubset_iff`).

A mask stops at its last word that is not zero, so two masks need not be equally long. A word
that is not there reads as zero (`wordAt`), and with that reading no proof about what a mask
contains has to ask where it ends.

Masks are compared word by word when they are asked to be **equal**, and there the end counts:
a mask with a zero behind it would be the same set and another mask. No such mask is made
(`Trimmed`), and among those that are, a mask is known by its set (`Trimmed.eq_of_contains`).
-/

namespace Switchboard.HeaderMask

/-! ## One word -/

/-- The word of one position holds that position alone. -/
theorem toBitVec_bit {i : Nat} (h : i < wordBits) :
    (bit i).toBitVec = BitVec.twoPow 64 i := by
  have hsize : i % 18446744073709551616 = i :=
    Nat.mod_eq_of_lt (Nat.lt_trans h (by decide))
  have hword : i % 64 = i := Nat.mod_eq_of_lt h
  simp [bit, UInt64.toBitVec_shiftLeft, BitVec.twoPow_eq, hsize, hword, BitVec.shiftLeft_eq']

theorem twoPow_ne_zero {i : Nat} (h : i < wordBits) : BitVec.twoPow 64 i ≠ 0#64 := by
  have hi : i < 64 := h
  intro hzero
  have hbit := congrArg (fun x => x.getLsbD i) hzero
  simp [hi] at hbit

/-- The word of one position is not zero. -/
theorem bit_ne_zero {i : Nat} (h : i < wordBits) : bit i ≠ 0 := by
  rw [ne_eq, ← UInt64.toBitVec_inj, toBitVec_bit h]
  exact twoPow_ne_zero h

/-- **A word has a position** when its bit there is set. -/
theorem and_bit_bne_zero (w : UInt64) {i : Nat} (h : i < wordBits) :
    (w &&& bit i != 0) = w.toBitVec.getLsbD i := by
  have hand : w &&& bit i = 0
      ↔ (if w.toBitVec.getLsbD i then BitVec.twoPow 64 i else 0#64) = 0#64 := by
    rw [← UInt64.toBitVec_inj, UInt64.toBitVec_and, toBitVec_bit h, BitVec.and_twoPow]
    rfl
  rw [Bool.eq_iff_iff, bne_iff_ne, ne_eq, hand]
  cases w.toBitVec.getLsbD i with
  | true => simp [twoPow_ne_zero h]
  | false => simp

/-- **One word lies inside another** when the second has every bit of the first. -/
theorem and_not_beq_zero (v w : UInt64) :
    (v &&& ~~~w == 0) = true
      ↔ ∀ i < wordBits, v.toBitVec.getLsbD i = true → w.toBitVec.getLsbD i = true := by
  rw [beq_iff_eq, ← UInt64.toBitVec_inj, UInt64.toBitVec_and, UInt64.toBitVec_not,
    BitVec.eq_of_getLsbD_eq_iff]
  refine forall_congr' (fun i => forall_congr' (fun hi => ?_))
  have hi' : i < 64 := hi
  rw [BitVec.getLsbD_and, BitVec.getLsbD_not]
  cases hv : v.toBitVec.getLsbD i <;> cases hw : w.toBitVec.getLsbD i <;> simp [hi']

/-! ## Words by their place -/

/-- The word at a place; behind the last one there are zeros. -/
def wordAt (ws : List UInt64) (k : Nat) : UInt64 :=
  (ws[k]?).getD 0

/-- A mask contains a position when the word of the position has its bit. -/
theorem contains_eq (m : HeaderMask) (i : Nat) :
    m.contains i = (wordAt m.words (i / wordBits)).toBitVec.getLsbD (i % wordBits) := by
  rw [← and_bit_bne_zero _ (Nat.mod_lt i (by decide))]
  unfold contains wordAt
  cases m.words[i / wordBits]? with
  | none => simp
  | some w => rfl

/-- The positions of a word are those it has, counted on from where the word begins. -/
theorem contains_at (m : HeaderMask) (k : Nat) {i : Nat} (h : i < wordBits) :
    m.contains (k * wordBits + i) = (wordAt m.words k).toBitVec.getLsbD i := by
  have hk : (k * wordBits + i) / wordBits = k := by
    unfold wordBits at *
    omega
  rw [contains_eq, hk, Nat.mul_add_mod', Nat.mod_eq_of_lt h]

/-- Behind the last word there is nothing. -/
theorem wordAt_of_length_le {ws : List UInt64} {k : Nat} (h : ws.length ≤ k) : wordAt ws k = 0 := by
  rw [wordAt, List.getElem?_eq_none_iff.mpr h, Option.getD_none]

/-- **Adding to one word leaves the others.** -/
theorem wordAt_orWord (w : UInt64) (i : Nat) (ws : List UInt64) (k : Nat) :
    wordAt (orWord w i ws) k = if k = i then wordAt ws k ||| w else wordAt ws k := by
  induction i generalizing ws k with
  | zero =>
    cases ws with
    | nil => cases k <;> simp [orWord, wordAt]
    | cons v vs => cases k <;> simp [orWord, wordAt]
  | succ i ih =>
    cases ws with
    | nil =>
      cases k with
      | zero => simp [orWord, wordAt]
      | succ k => simpa [orWord, wordAt] using ih [] k
    | cons v vs =>
      cases k with
      | zero => simp [orWord, wordAt]
      | succ k => simpa [orWord, wordAt] using ih vs k

/-! ## Masks -/

/-- **Setting a position adds it** and nothing else. -/
theorem contains_set (m : HeaderMask) (i j : Nat) :
    (m.set i).contains j = (decide (j = i) || m.contains j) := by
  have hmod : j % wordBits < 64 := Nat.mod_lt j (by decide)
  rw [contains_eq, contains_eq]
  show (wordAt (orWord (bit (i % wordBits)) (i / wordBits) m.words)
    (j / wordBits)).toBitVec.getLsbD (j % wordBits) = _
  rw [wordAt_orWord]
  by_cases hword : j / wordBits = i / wordBits
  · rw [if_pos hword, UInt64.toBitVec_or, toBitVec_bit (Nat.mod_lt i (by decide)),
      BitVec.getLsbD_or, BitVec.getLsbD_twoPow, Bool.or_comm]
    have hsame : i % wordBits = j % wordBits ↔ j = i := by
      unfold wordBits at *
      omega
    have hlt : i % wordBits < 64 := Nat.mod_lt i (by decide)
    simp [hlt, hsame]
  · have hne : j ≠ i := fun h => hword (congrArg (· / wordBits) h)
    rw [if_neg hword, decide_eq_false hne, Bool.false_or]

/-- **The mask of a list has the positions of the list.** -/
theorem contains_ofBits (bits : List Nat) (i : Nat) :
    (ofBits bits).contains i = true ↔ i ∈ bits := by
  have hfold : ∀ m : HeaderMask,
      (bits.foldl set m).contains i = true ↔ i ∈ bits ∨ m.contains i = true := by
    induction bits with
    | nil => intro m; simp
    | cons b bits ih =>
      intro m
      rw [List.foldl_cons, ih, contains_set, List.mem_cons, Bool.or_eq_true, decide_eq_true_eq,
        or_assoc, or_left_comm]
  rw [ofBits, hfold]
  exact or_iff_left (by simp [contains])

/-- The comparison of words goes word by word. -/
theorem subsetWords_iff (vs ws : List UInt64) :
    subsetWords vs ws = true ↔ ∀ k, (wordAt vs k &&& ~~~(wordAt ws k) == 0) = true := by
  induction vs generalizing ws with
  | nil => simp [subsetWords, wordAt]
  | cons v vs ih =>
    have hhead : wordAt ws 0 = ws.headD 0 := by cases ws <;> rfl
    have htail : ∀ k, wordAt ws (k + 1) = wordAt ws.tail k := by
      intro k
      cases ws <;> rfl
    rw [subsetWords, Bool.and_eq_true, ih]
    constructor
    · rintro ⟨h₀, h⟩ k
      cases k with
      | zero => rw [hhead]; exact h₀
      | succ k => rw [htail]; exact h k
    · intro h
      refine ⟨?_, fun k => ?_⟩
      · rw [← hhead]
        exact h 0
      · rw [← htail]
        exact h (k + 1)

/-- **The comparison of masks is the inclusion of their positions.** -/
theorem isSubset_iff (m n : HeaderMask) :
    m.isSubset n = true ↔ ∀ i, m.contains i = true → n.contains i = true := by
  rw [isSubset, subsetWords_iff]
  constructor
  · intro h i
    rw [contains_eq, contains_eq]
    exact (and_not_beq_zero _ _).mp (h _) _ (Nat.mod_lt i (by decide))
  · intro h k
    refine (and_not_beq_zero _ _).mpr (fun i hi => ?_)
    rw [← contains_at m k hi, ← contains_at n k hi]
    exact h _

/-- Among masks of lists, inclusion is inclusion of the lists. -/
theorem isSubset_ofBits (bits bits' : List Nat) :
    (ofBits bits).isSubset (ofBits bits') = true ↔ bits ⊆ bits' := by
  rw [isSubset_iff]
  simp only [contains_ofBits]
  rfl

/-! ## Where a mask ends -/

/-- **A trimmed mask**: its last word is not zero, if it has one. -/
def Trimmed (m : HeaderMask) : Prop :=
  ∀ k, m.words.length = k + 1 → wordAt m.words k ≠ 0

theorem trimmed_empty : Trimmed ⟨[]⟩ := by
  intro k hk
  cases hk

/-- Adding to a word adds words as far as that one. -/
theorem length_orWord (w : UInt64) (i : Nat) (ws : List UInt64) :
    (orWord w i ws).length = max ws.length (i + 1) := by
  induction i generalizing ws with
  | zero =>
    cases ws with
    | nil => rfl
    | cons v vs =>
      rw [orWord, List.length_cons, List.length_cons]
      omega
  | succ i ih =>
    cases ws with
    | nil =>
      rw [orWord, List.length_cons, ih, List.length_nil]
      omega
    | cons v vs =>
      rw [orWord, List.length_cons, ih, List.length_cons]
      omega

/-- **Setting a position leaves a mask trimmed**: the last word is the one with the new position, or it
is the one it was. -/
theorem Trimmed.set {m : HeaderMask} (h : m.Trimmed) (i : Nat) : (m.set i).Trimmed := by
  intro k hk
  have hlength : max m.words.length (i / wordBits + 1) = k + 1 := by
    rw [← length_orWord (bit (i % wordBits))]
    exact hk
  show wordAt (orWord (bit (i % wordBits)) (i / wordBits) m.words) k ≠ 0
  rw [wordAt_orWord]
  by_cases hword : k = i / wordBits
  · rw [if_pos hword]
    exact fun hzero => bit_ne_zero (Nat.mod_lt i (by decide)) (UInt64.or_eq_zero_iff.mp hzero).2
  · rw [if_neg hword]
    exact h k (by omega)

theorem trimmed_ofBits (bits : List Nat) : (ofBits bits).Trimmed := by
  have hfold : ∀ m : HeaderMask, m.Trimmed → (bits.foldl HeaderMask.set m).Trimmed := by
    induction bits with
    | nil => exact fun m hm => hm
    | cons b bits ih => exact fun m hm => ih _ (hm.set b)
  exact hfold ⟨[]⟩ trimmed_empty

theorem Trimmed.getLast?_ne_zero {m : HeaderMask} (h : m.Trimmed) :
    m.words.getLast? ≠ some 0 := by
  intro hlast
  rw [List.getLast?_eq_getElem?] at hlast
  obtain ⟨hlt, hword⟩ := List.getElem?_eq_some_iff.mp hlast
  refine h (m.words.length - 1) (by omega) ?_
  rw [wordAt, hlast, Option.getD_some]

/-- Masks of the same positions have the same words, as far as there are any. -/
theorem wordAt_eq_of_contains {m n : HeaderMask} (h : ∀ i, m.contains i = n.contains i) (k : Nat) :
    wordAt m.words k = wordAt n.words k := by
  rw [← UInt64.toBitVec_inj]
  refine BitVec.eq_of_getLsbD_eq (fun i hi => ?_)
  rw [← contains_at m k hi, ← contains_at n k hi]
  exact h _

/-- A trimmed mask is no longer than one with the same words. -/
theorem Trimmed.length_le {m n : HeaderMask} (h : m.Trimmed)
    (hwords : ∀ k, wordAt m.words k = wordAt n.words k) : m.words.length ≤ n.words.length := by
  refine Nat.le_of_not_lt (fun hlonger => ?_)
  obtain ⟨k, hk⟩ := Nat.exists_eq_add_one_of_ne_zero (Nat.ne_zero_of_lt hlonger)
  refine h k hk ?_
  rw [hwords, wordAt_of_length_le]
  omega

/-- **A trimmed mask is known by its positions.** -/
theorem Trimmed.eq_of_contains {m n : HeaderMask} (hm : m.Trimmed) (hn : n.Trimmed)
    (h : ∀ i, m.contains i = n.contains i) : m = n := by
  have hwords := wordAt_eq_of_contains h
  have hlength : m.words.length = n.words.length :=
    Nat.le_antisymm (hm.length_le hwords) (hn.length_le (fun k => (hwords k).symm))
  refine congrArg HeaderMask.mk (List.ext_getElem hlength (fun k hk hk' => ?_))
  have hword := hwords k
  rwa [wordAt, wordAt, List.getElem?_eq_getElem hk, List.getElem?_eq_getElem hk'] at hword

/-- A trimmed mask has no words exactly if it has no positions. -/
theorem Trimmed.isEmpty_iff {m : HeaderMask} (h : m.Trimmed) :
    m.isEmpty = true ↔ ∀ i, m.contains i = false := by
  rw [isEmpty, List.isEmpty_iff]
  constructor
  · intro hnil i
    rw [contains, hnil]
    rfl
  · intro hnone
    exact congrArg words (h.eq_of_contains trimmed_empty hnone)

/-! ## The positions, listed -/

/-- The first word has the positions below its size, and the other words have the rest. -/
theorem contains_cons (w : UInt64) (ws : List UInt64) (i : Nat) :
    contains ⟨w :: ws⟩ i
      = if i < wordBits then w.toBitVec.getLsbD i else contains ⟨ws⟩ (i - wordBits) := by
  rw [contains_eq]
  by_cases hi : i < wordBits
  · rw [if_pos hi, Nat.div_eq_of_lt hi, Nat.mod_eq_of_lt hi]
    rfl
  · have hdiv : i / wordBits = (i - wordBits) / wordBits + 1 := by
      unfold wordBits at *
      omega
    have hmod : i % wordBits = (i - wordBits) % wordBits := by
      unfold wordBits at *
      omega
    rw [if_neg hi, contains_eq, hdiv, hmod]
    rfl

/-- The positions listed for a word are those it has, counted on from where it begins. -/
theorem mem_wordPositions {start : Nat} {w : UInt64} {i : Nat} :
    i ∈ ((List.range wordBits).filter fun j => w &&& bit j != 0).map (start + ·)
      ↔ start ≤ i ∧ i - start < wordBits ∧ w.toBitVec.getLsbD (i - start) = true := by
  rw [List.mem_map]
  constructor
  · rintro ⟨j, hj, rfl⟩
    obtain ⟨hrange, hbit⟩ := List.mem_filter.mp hj
    have hlt : j < wordBits := List.mem_range.mp hrange
    rw [Nat.add_sub_cancel_left, ← and_bit_bne_zero w hlt]
    exact ⟨Nat.le_add_right start j, hlt, hbit⟩
  · rintro ⟨hstart, hlt, hbit⟩
    rw [← and_bit_bne_zero w hlt] at hbit
    exact ⟨i - start, List.mem_filter.mpr ⟨List.mem_range.mpr hlt, hbit⟩,
      Nat.add_sub_cancel' hstart⟩

/-- **The positions listed** for some words are those that the words have, counted on from where the
words begin. -/
theorem mem_bitsFrom {start : Nat} {ws : List UInt64} {i : Nat} :
    i ∈ bitsFrom start ws ↔ start ≤ i ∧ contains ⟨ws⟩ (i - start) = true := by
  induction ws generalizing start with
  | nil => simp [bitsFrom, contains]
  | cons w ws ih =>
    rw [bitsFrom, List.mem_append, mem_wordPositions, ih, contains_cons]
    by_cases hi : i - start < wordBits
    · rw [if_pos hi]
      have hbefore : ¬ start + wordBits ≤ i := by omega
      simp [hi, hbefore]
    · rw [if_neg hi, Nat.sub_add_eq]
      have hafter : start + wordBits ≤ i ↔ start ≤ i := by
        unfold wordBits at *
        omega
      simp [hi, hafter]

/-- **The positions are listed in ascending order**, word after word and inside each word. -/
theorem pairwise_bitsFrom (start : Nat) (ws : List UInt64) :
    (bitsFrom start ws).Pairwise (· < ·) := by
  induction ws generalizing start with
  | nil => exact .nil
  | cons w ws ih =>
    rw [bitsFrom, List.pairwise_append]
    refine ⟨?_, ih _, fun i hi j hj => ?_⟩
    · rw [List.pairwise_map]
      exact (List.pairwise_lt_range.filter _).imp fun hlt => Nat.add_lt_add_left hlt start
    · have hi := mem_wordPositions.mp hi
      have hj := mem_bitsFrom.mp hj
      omega

/-- **The list of a mask** has the positions of the mask. -/
theorem mem_bits {m : HeaderMask} {i : Nat} : i ∈ m.bits ↔ m.contains i = true := by
  rw [bits, mem_bitsFrom]
  exact and_iff_right (Nat.zero_le i)

/-! ## Masks of lists -/

/-- **A mask is a set of positions, and each set has one mask.** For any two lists of positions, in any
order, with repeats and however far apart: their masks are equal exactly if the lists have the same
positions; a mask contains just the positions of its list; it lists them in ascending order, each once;
it is empty exactly if the list is; and one mask lies inside another exactly if every position of the
one list is in the other. The last word of a mask is never zero, so a mask is as long as its highest
position needs and no longer. -/
theorem ofBits_canonical (A B : List Nat) :
    (ofBits A = ofBits B ↔ ∀ i, i ∈ A ↔ i ∈ B)
      ∧ (∀ i, (ofBits A).contains i = true ↔ i ∈ A)
      ∧ (ofBits A).bits.Pairwise (· < ·)
      ∧ (∀ i, i ∈ (ofBits A).bits ↔ i ∈ A)
      ∧ ((ofBits A).isEmpty = true ↔ A = [])
      ∧ ((ofBits A).isSubset (ofBits B) = true ↔ ∀ i ∈ A, i ∈ B)
      ∧ (ofBits A).words.getLast? ≠ some 0 := by
  refine ⟨?_, contains_ofBits A, pairwise_bitsFrom 0 _,
    fun i => mem_bits.trans (contains_ofBits A i), ?_, isSubset_ofBits A B, ?_⟩
  · constructor
    · intro hsame i
      rw [← contains_ofBits A i, hsame, contains_ofBits B i]
    · intro hsame
      refine (trimmed_ofBits A).eq_of_contains (trimmed_ofBits B) (fun i => ?_)
      rw [Bool.eq_iff_iff, contains_ofBits, contains_ofBits]
      exact hsame i
  · rw [(trimmed_ofBits A).isEmpty_iff, List.eq_nil_iff_forall_not_mem]
    exact forall_congr' fun i => by rw [← contains_ofBits A i, Bool.not_eq_true]
  · exact (trimmed_ofBits A).getLast?_ne_zero

/-- Positions of the first and of the second word, twice and in no order. -/
example : (ofBits [70, 1, 70]).bits = [1, 70] ∧ ofBits [70, 1, 70] = ofBits [1, 70]
    ∧ (ofBits [70]).isSubset (ofBits [1]) = false := by
  decide

end Switchboard.HeaderMask
