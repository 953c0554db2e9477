import GrammarScan.Proofs.Text.Columns

/-!
# Texts without tables

A text of ASCII characters alone is given no tables: its map is the identity up to its length.
Filling the tables would have come to the same. Of such a text the table in either direction holds
the numbers up to its length one after another, and so do the tables in machine words, so that
looking up an offset gives that offset, or nothing behind the end.

No other text could do without tables. Each character has as many code units as bytes just if it is
an ASCII character, and fewer otherwise; so a column lies behind its boundary nowhere, and it is the
boundary everywhere only in a text of ASCII characters.
-/

namespace GrammarScan

/-- A text has as many code units as bytes just if all its characters are ASCII characters. -/
theorem unitLength_eq_byteLength_iff {unit : CodeUnit} {s : List Char} :
    unitLength unit s = byteLength s ↔ isAscii s = true := by
  induction s with
  | nil => exact iff_of_true rfl rfl
  | cons c s ih =>
    have hle := unitLength_le_byteLength unit s
    simp only [unitLength, byteLength, isAscii, List.all_cons, Bool.and_eq_true, decide_eq_true_eq]
    rw [isAscii] at ih
    rw [← ih]
    by_cases hc : c.toNat < 0x80
    · obtain ⟨hsize, hwidth⟩ := widths_of_isAscii unit hc
      simp [hsize, hwidth, hc]
    · have hlt := unit.width_lt_utf8Size hc
      simp only [hc, false_and, iff_false]
      omega

/-! ## Tables of texts of ASCII characters -/

section Tables

variable {unit : CodeUnit} {s : List Char}

/-- Where all characters are one wide in either kind of offset, a table holds the numbers one after
another. -/
theorem getElem?_offsetEntries_of_forall_eq_one {width size : Char → Nat} {first index : Nat}
    (h : ∀ c ∈ s, width c = 1 ∧ size c = 1) :
    ((offsetEntries width size first s)[index]?).join =
      if index ≤ s.length then some (first + index) else none := by
  induction s generalizing first index with
  | nil =>
    cases index with
    | zero => rfl
    | succ index => simp [offsetEntries]
  | cons c s ih =>
    obtain ⟨⟨hwidth, hsize⟩, hrest⟩ := List.forall_mem_cons.mp h
    cases index with
    | zero => rfl
    | succ index =>
      have hnext : ((offsetEntries width size (first + 1) s)[index]?).join =
          if index ≤ s.length then some (first + 1 + index) else none := ih hrest
      simp only [offsetEntries, hwidth, hsize, Nat.sub_self, List.replicate_zero, List.nil_append,
        List.getElem?_cons_succ, hnext, List.length_cons, Nat.succ_le_succ_iff]
      rw [Nat.add_assoc, Nat.add_comm 1 index]

/-- The two tables of a text of ASCII characters answer as the identity up to its length. -/
theorem offsetEntries_of_isAscii (unit : CodeUnit) (h : isAscii s = true) (index : Nat) :
    ((offsetEntries Char.utf8Size unit.width 0 s)[index]?).join =
        (OffsetMap.identity (byteLength s)).unitAt? index ∧
      ((offsetEntries unit.width Char.utf8Size 0 s)[index]?).join =
        (OffsetMap.identity (byteLength s)).byteAt? index := by
  have hone : ∀ c ∈ s, c.utf8Size = 1 ∧ unit.width c = 1 := by
    rw [isAscii, List.all_eq_true] at h
    exact fun c hc => widths_of_isAscii unit (by simpa using h c hc)
  rw [getElem?_offsetEntries_of_forall_eq_one hone,
    getElem?_offsetEntries_of_forall_eq_one fun c hc => (hone c hc).symm,
    (lengths_of_isAscii unit h).1, Nat.zero_add]
  exact ⟨rfl, rfl⟩

/-- Tables in memory that answer as the identity up to a length: for every machine word, in either
direction, and with that length as the number of code units. -/
structure OffsetWords.ActsAsIdentity (words : OffsetWords) (length : Nat) : Prop where
  unitLength_eq : words.unitLength.toNat = length
  unitAt_eq : ∀ byte,
    (words.unitAt? byte).map UInt64.toNat = (OffsetMap.identity length).unitAt? byte.toNat
  byteAt_eq : ∀ column,
    (words.byteAt? column).map UInt64.toNat = (OffsetMap.identity length).byteAt? column.toNat

/-- The tables that one pass over a text of ASCII characters fills act as the identity. -/
theorem OffsetWords.actsAsIdentity_ofText (unit : CodeUnit) (h : isAscii s = true)
    (hlength : byteLength s ≤ longestText) :
    (OffsetWords.ofText unit s).ActsAsIdentity (byteLength s) := by
  have hbelow {offset : Nat} (hle : offset ≤ byteLength s) : offset < unmapped.toNat :=
    Nat.lt_of_le_of_lt (Nat.le_trans hle hlength) (by decide)
  constructor
  · rw [OffsetWords.ofText_eq hlength, unitLength_eq_byteLength_iff.mpr h]
    exact UInt64.toNat_ofNat_of_lt' (Nat.lt_trans (hbelow (Nat.le_refl _)) (by decide))
  · intro byte
    rw [OffsetWords.ofText_eq hlength, OffsetWords.unitAt?, OffsetWords.filter_stored]
    · exact (offsetEntries_of_isAscii unit h _).1
    · intro offset hentry
      rw [← Option.join_eq_some_iff, (offsetEntries_of_isAscii unit h _).1] at hentry
      simp only [OffsetMap.unitAt?, Option.ite_none_right_eq_some, Option.some.injEq] at hentry
      exact hbelow (hentry.2 ▸ hentry.1)
  · intro column
    rw [OffsetWords.ofText_eq hlength, OffsetWords.byteAt?, OffsetWords.filter_stored]
    · exact (offsetEntries_of_isAscii unit h _).2
    · intro offset hentry
      rw [← Option.join_eq_some_iff, (offsetEntries_of_isAscii unit h _).2] at hentry
      simp only [OffsetMap.byteAt?, Option.ite_none_right_eq_some, Option.some.injEq] at hentry
      exact hbelow (hentry.2 ▸ hentry.1)

end Tables

/-- For a text of ASCII characters the tables answer every offset as the identity does, those in
machine words included if memory can hold the text, and it has as many code units as bytes. Counting
the code units before each boundary gives the boundary itself in these texts and in no others. In
any text a column is at most the byte offset of its place, and there are no more code units than
bytes. -/
theorem identity_exact_iff_isAscii (id : BufferId) (s : List Char) (unit : CodeUnit) :
    (isAscii s = true → unitLength unit s = byteLength s ∧
      (∀ offset,
        (OffsetMap.table (.ofText unit s)).unitAt? offset =
            (OffsetMap.identity (byteLength s)).unitAt? offset ∧
          (OffsetMap.table (.ofText unit s)).byteAt? offset =
            (OffsetMap.identity (byteLength s)).byteAt? offset) ∧
      (byteLength s ≤ longestText →
        (OffsetWords.ofText unit s).ActsAsIdentity (byteLength s))) ∧
    ((∀ front, front <+: s → (front.map unit.width).sum = byteLength front) ↔ isAscii s = true) ∧
    (∀ byte column, (Buffer.ofText id s unit).tryUnitOffset byte = some column → column ≤ byte) ∧
    (Buffer.ofText id s unit).unitLength ≤ (Buffer.ofText id s unit).byteLength := by
  refine ⟨fun hascii => ⟨unitLength_eq_byteLength_iff.mpr hascii, fun offset => ?_,
    OffsetWords.actsAsIdentity_ofText unit hascii⟩,
    ⟨fun hsame => ?_, fun hascii front hfront => ?_⟩, fun byte column hcolumn => ?_,
    unitLength_le_byteLength unit s⟩
  · simp only [OffsetMap.unitAt?, OffsetMap.byteAt?, OffsetTable.ofText, List.getElem?_toArray]
    exact offsetEntries_of_isAscii unit hascii offset
  · have hlength : unitLength unit s = byteLength s := by
      rw [unitLength_eq_sum]
      exact hsame s List.prefix_rfl
    exact unitLength_eq_byteLength_iff.mp hlength
  · rw [← unitLength_eq_sum]
    exact unitLength_eq_byteLength_iff.mpr (isAscii_of_isPrefix hfront hascii)
  · obtain ⟨front, -, rfl, rfl⟩ := unitAt?_eq_some_iff.mp hcolumn
    exact unitLength_le_byteLength unit front

/-- Two letters, asked for at the end and behind it; with an accent on one of them the end is
another column. -/
theorem identity_exact_iff_isAscii_letters :
    isAscii "ab".toList = true ∧ byteLength "ab".toList ≤ longestText ∧
      ((OffsetWords.ofText .utf16 "ab".toList).byteAt? 2).map UInt64.toNat = some 2 ∧
      ((OffsetWords.ofText .utf16 "ab".toList).unitAt? 3).map UInt64.toNat = none ∧
      ¬ ∀ front, front <+: "áb".toList →
        (front.map CodeUnit.utf16.width).sum = byteLength front := by
  have hascii : isAscii "ab".toList = true := by decide
  have hlength : byteLength "ab".toList ≤ longestText := by decide
  have hwords := ((identity_exact_iff_isAscii ⟨0⟩ "ab".toList .utf16).1 hascii).2.2 hlength
  refine ⟨hascii, hlength, (hwords.byteAt_eq 2).trans (by decide),
    (hwords.unitAt_eq 3).trans (by decide), ?_⟩
  rw [(identity_exact_iff_isAscii ⟨0⟩ "áb".toList .utf16).2.1]
  decide

end GrammarScan
