import GrammarScan.Proofs.Text.Offsets
import GrammarScan.Text.OffsetWords

/-!
# Exact offset maps

A byte offset and a column stand for the same place if the same characters lie before both. The maps
of a text match up just these: a byte offset has a column if it is a boundary, and a column has a
byte offset unless it lies behind the end or on the second half of a pair. Since places come in one
order, both maps keep it.

The tables lie in memory as machine words, one of which means that there is no offset. No text is
long enough for an offset to be that word, so the one pass that fills the tables leaves in them what
the maps answer.
-/

namespace GrammarScan

/-! ## Places in their order -/

section Places

variable {unit : CodeUnit} {s : List Char} {byte byte' column column' : Nat}

@[simp] theorem unitLength_append (unit : CodeUnit) (s t : List Char) :
    unitLength unit (s ++ t) = unitLength unit s + unitLength unit t := by
  simp [unitLength_eq_sum]

/-- A character that is no ASCII character has fewer code units than bytes. -/
theorem CodeUnit.width_lt_utf8Size (unit : CodeUnit) {c : Char} (h : ¬ c.toNat < 0x80) :
    unit.width c < c.utf8Size := by
  have hascii : ¬ c.val ≤ 0x7F := by
    rw [UInt32.le_iff_toNat_le]
    exact fun hle => h (Nat.lt_succ_of_le hle)
  have hsize : 2 ≤ c.utf8Size := by
    have hpos := c.utf8Size_pos
    have hone : c.utf8Size ≠ 1 := fun hone => hascii (Char.utf8Size_eq_one_iff.mp hone)
    omega
  cases unit with
  | utf32 => exact hsize
  | utf16 =>
    simp only [CodeUnit.width]
    split
    · exact hsize
    · next hpair =>
      have hbasic : ¬ c.val ≤ 0xFFFF := by
        rw [UInt32.le_iff_toNat_le]
        exact fun hle => hpair (Nat.lt_succ_of_le hle)
      have hshort : ¬ c.val ≤ 0x7FF := fun hle => hbasic (UInt32.le_trans hle (by decide))
      simp [Char.utf8Size, hascii, hshort, hbasic]

/-- A character has no more code units than bytes. -/
theorem CodeUnit.width_le_utf8Size (unit : CodeUnit) (c : Char) : unit.width c ≤ c.utf8Size := by
  by_cases hascii : c.toNat < 0x80
  · obtain ⟨hsize, hwidth⟩ := widths_of_isAscii unit hascii
    rw [hsize, hwidth]
  · exact (unit.width_lt_utf8Size hascii).le

theorem unitLength_le_byteLength (unit : CodeUnit) (s : List Char) :
    unitLength unit s ≤ byteLength s := by
  induction s with
  | nil => exact Nat.le_refl _
  | cons c s ih => exact Nat.add_le_add (unit.width_le_utf8Size c) ih

/-- Neither offset of a place lies behind the end of the text. -/
theorem SamePlace.le (h : SamePlace unit s byte column) :
    byte ≤ byteLength s ∧ column ≤ byteLength s := by
  obtain ⟨front, ⟨back, rfl⟩, rfl, rfl⟩ := h
  have hle := unitLength_le_byteLength unit front
  rw [byteLength_append]
  omega

/-- The two offsets of places are ordered alike. -/
theorem SamePlace.lt_iff (h : SamePlace unit s byte column) (h' : SamePlace unit s byte' column') :
    byte < byte' ↔ column < column' := by
  -- Some more characters are longer in both ways, unless there are none.
  have hmore (more : List Char) : more = [] ∨ 0 < byteLength more ∧ 0 < unitLength unit more := by
    cases more with
    | nil => exact .inl rfl
    | cons c more =>
      exact .inr ⟨Nat.add_pos_left c.utf8Size_pos _, Nat.add_pos_left (unit.width_pos c) _⟩
  obtain ⟨front, hfront, rfl, rfl⟩ := h
  obtain ⟨front', hfront', rfl, rfl⟩ := h'
  rcases List.prefix_or_prefix_of_prefix hfront hfront' with ⟨more, rfl⟩ | ⟨more, rfl⟩ <;>
  · rw [byteLength_append, unitLength_append]
    rcases hmore more with rfl | hpos
    · simp [byteLength, unitLength]
    · omega

theorem SamePlace.le_iff (h : SamePlace unit s byte column) (h' : SamePlace unit s byte' column') :
    byte ≤ byte' ↔ column ≤ column' := by
  rw [← Nat.not_lt, ← Nat.not_lt, h'.lt_iff h]

/-- The places of a text are its start and those of what follows the first character. -/
theorem samePlace_cons {c : Char} : SamePlace unit (c :: s) byte column ↔
    (byte = 0 ∧ column = 0) ∨ ∃ byte' column', SamePlace unit s byte' column' ∧
      byte = c.utf8Size + byte' ∧ column = unit.width c + column' := by
  constructor
  · rintro ⟨_ | ⟨d, front⟩, hfront, rfl, rfl⟩
    · exact .inl ⟨rfl, rfl⟩
    · obtain ⟨rfl, hrest⟩ := List.cons_prefix_cons.mp hfront
      exact .inr ⟨_, _, ⟨front, hrest, rfl, rfl⟩, rfl, rfl⟩
  · rintro (⟨rfl, rfl⟩ | ⟨_, _, ⟨front, hfront, rfl, rfl⟩, rfl, rfl⟩)
    · exact ⟨[], List.nil_prefix, rfl, rfl⟩
    · exact ⟨c :: front, List.cons_prefix_cons.mpr ⟨rfl, hfront⟩, rfl, rfl⟩

end Places

/-! ## Columns without a place -/

/-- Whether the code unit at a column is the second half of a pair. Only UTF-16 has pairs. -/
def IsSecondHalf (unit : CodeUnit) (s : List Char) (column : Nat) : Prop :=
  unit = .utf16 ∧ ∃ u, (encode16 s)[column]? = some u ∧ isLowSurrogate u = true

section Halves

variable {unit : CodeUnit} {s : List Char} {c : Char} {column : Nat}

theorem length_units16 (c : Char) : (units16 c).length = CodeUnit.utf16.width c := by
  simp only [units16, CodeUnit.width]
  split <;> rfl

theorem isLowSurrogate_toUInt16 {n : Nat} (h : n < UInt16.size) :
    isLowSurrogate n.toUInt16 = true ↔ 0xDC00 ≤ n ∧ n < 0xE000 := by
  have htoNat : n.toUInt16.toNat = n := UInt16.toNat_ofNat_of_lt' h
  simp only [isLowSurrogate, htoNat, Bool.and_eq_true, decide_eq_true_eq]

/-- Of the units of a character all but the first are second halves. -/
theorem isLowSurrogate_units16 (c : Char) {u : UInt16} (h : (units16 c)[column]? = some u) :
    isLowSurrogate u = true ↔ 0 < column := by
  have hvalid : c.toNat.isValidChar := c.valid
  have hsize : UInt16.size = 0x10000 := rfl
  unfold Nat.isValidChar at hvalid
  unfold units16 at h
  split at h
  · next hbasic =>
    cases column with
    | zero =>
      simp only [List.getElem?_cons_zero, Option.some.injEq] at h
      rw [← h, isLowSurrogate_toUInt16 hbasic]
      omega
    | succ column => simp at h
  · next hpair =>
    rcases column with _ | _ | column
    · simp only [List.getElem?_cons_zero, Option.some.injEq] at h
      rw [← h, isLowSurrogate_toUInt16 (by omega)]
      omega
    · simp only [List.getElem?_cons_succ, List.getElem?_cons_zero, Option.some.injEq] at h
      rw [← h, isLowSurrogate_toUInt16 (by omega)]
      omega
    · simp at h

/-- Inside of the first character all columns but the first are second halves. -/
theorem isSecondHalf_cons_of_lt (h : column < unit.width c) :
    IsSecondHalf unit (c :: s) column ↔ 0 < column := by
  cases unit with
  | utf32 =>
    have hzero : column = 0 := Nat.lt_one_iff.mp h
    simp [IsSecondHalf, hzero]
  | utf16 =>
    have hlt : column < (units16 c).length := by rwa [length_units16]
    have hunit : (encode16 (c :: s))[column]? = some (units16 c)[column] := by
      rw [encode16, List.flatMap_cons, List.getElem?_append_left hlt, List.getElem?_eq_getElem hlt]
    have hlow := isLowSurrogate_units16 c (List.getElem?_eq_getElem hlt)
    simp [IsSecondHalf, hunit, hlow]

/-- Behind the first character the second halves are those of what follows. -/
theorem isSecondHalf_cons_add :
    IsSecondHalf unit (c :: s) (unit.width c + column) ↔ IsSecondHalf unit s column := by
  cases unit with
  | utf32 => simp [IsSecondHalf]
  | utf16 =>
    have hunit : (encode16 (c :: s))[CodeUnit.utf16.width c + column]? = (encode16 s)[column]? := by
      rw [encode16, List.flatMap_cons, ← length_units16,
        List.getElem?_append_right (Nat.le_add_right _ _), Nat.add_sub_cancel_left]
      rfl
    simp [IsSecondHalf, hunit]

/-- A column belongs to no place just if it lies behind the end or on the second half of a pair. -/
theorem forall_not_samePlace_iff : (∀ byte, ¬ SamePlace unit s byte column) ↔
    unitLength unit s < column ∨ IsSecondHalf unit s column := by
  induction s generalizing column with
  | nil =>
    cases column with
    | zero =>
      simp [SamePlace, byteLength, unitLength, IsSecondHalf, encode16]
    | succ column => simp [SamePlace, unitLength]
  | cons c s ih =>
    rw [unitLength]
    rcases Nat.lt_or_ge column (unit.width c) with hlt | hge
    · have hend : ¬ unit.width c + unitLength unit s < column := by omega
      simp only [isSecondHalf_cons_of_lt hlt, hend, false_or, samePlace_cons]
      constructor
      · intro h
        refine Nat.pos_of_ne_zero fun hzero => h 0 (.inl ⟨rfl, hzero⟩)
      · rintro hpos byte (⟨-, rfl⟩ | ⟨byte', column', -, -, rfl⟩) <;> omega
    · obtain ⟨column, rfl⟩ := Nat.exists_eq_add_of_le hge
      have hpos := unit.width_pos c
      rw [isSecondHalf_cons_add, Nat.add_lt_add_iff_left, ← ih]
      constructor
      · intro h byte hplace
        exact h _ (samePlace_cons.mpr (.inr ⟨byte, column, hplace, rfl, rfl⟩))
      · intro h byte hplace
        rcases samePlace_cons.mp hplace with ⟨-, hzero⟩ | ⟨byte', column', hrest, -, hcolumn⟩
        · omega
        · obtain rfl := Nat.add_left_cancel hcolumn
          exact h byte' hrest

end Halves

/-! ## Tables in machine words -/

namespace OffsetWords

/-- A table entry as a machine word. -/
def stored : Option Nat → UInt64
  | none => unmapped
  | some offset => UInt64.ofNat offset

/-- Writing at the end of what is filled fills one more entry. -/
theorem setIfInBounds_filled (filled : Array UInt64) (count : Nat) (word : UInt64) :
    (filled ++ Array.replicate (count + 1) unmapped).setIfInBounds filled.size word =
      filled.push word ++ Array.replicate count unmapped := by
  apply Array.toList_inj.mp
  simp [List.replicate_succ]

/-- The entries of a text are an offset, the padding of its first character, and the entries of what
follows. -/
theorem append_stored_cons (width size : Char → Nat) (first : Nat) (c : Char) (s : List Char)
    (filled : Array UInt64) :
    filled ++ ((offsetEntries width size first (c :: s)).map stored).toArray =
      (filled.push (UInt64.ofNat first) ++ Array.replicate (width c - 1) unmapped) ++
        ((offsetEntries width size (first + size c) s).map stored).toArray := by
  apply Array.toList_inj.mp
  simp [offsetEntries, stored]

variable {unit : CodeUnit}

/-- One pass fills both tables with the entries of the text. -/
theorem fill_eq (bytes units : Nat) (filled toByte : Array UInt64) {s : List Char}
    (hfilled : filled.size = bytes) (hsize : bytes + byteLength s < UInt64.size) :
    fill unit ⟨UInt64.ofNat units, filled ++ .replicate (byteLength s + 1) unmapped, toByte⟩
        (UInt64.ofNat bytes) s =
      ⟨UInt64.ofNat (units + GrammarScan.unitLength unit s),
        filled ++ ((offsetEntries Char.utf8Size unit.width units s).map stored).toArray,
        toByte ++ ((offsetEntries unit.width Char.utf8Size bytes s).map stored).toArray⟩ := by
  have hbyte : (UInt64.ofNat bytes).toNat = filled.size := by
    rw [UInt64.toNat_ofNat_of_lt' (by omega), hfilled]
  induction s generalizing bytes units filled toByte with
  | nil =>
    simp only [fill, hbyte, setIfInBounds_filled]
    simp [offsetEntries, stored, GrammarScan.unitLength, byteLength]
  | cons c s ih =>
    have hpos := c.utf8Size_pos
    simp only [byteLength] at hsize
    have hnext : (filled.push (UInt64.ofNat units) ++
        Array.replicate (c.utf8Size - 1) unmapped).size = bytes + c.utf8Size := by
      simp only [Array.size_append, Array.size_push, Array.size_replicate, hfilled]
      omega
    have hrest : byteLength (c :: s) = c.utf8Size - 1 + (byteLength s + 1) := by
      simp only [byteLength]
      omega
    have hpadding : filled.push (UInt64.ofNat units) ++
        Array.replicate (byteLength (c :: s)) unmapped =
          (filled.push (UInt64.ofNat units) ++ Array.replicate (c.utf8Size - 1) unmapped) ++
            Array.replicate (byteLength s + 1) unmapped := by
      rw [Array.append_assoc, Array.replicate_append_replicate, hrest]
    simp only [fill, hbyte, setIfInBounds_filled, hpadding, ← UInt64.ofNat_add]
    rw [ih _ (units + unit.width c) _ _ hnext (by omega)
      (by rw [UInt64.toNat_ofNat_of_lt' (by omega), hnext])]
    rw [append_stored_cons, append_stored_cons, GrammarScan.unitLength, Nat.add_assoc]

/-- The tables of a text in memory are the entries of the text. -/
theorem ofText_eq {s : List Char} (hlength : byteLength s ≤ longestText) :
    ofText unit s =
      ⟨UInt64.ofNat (GrammarScan.unitLength unit s),
        ((offsetEntries Char.utf8Size unit.width 0 s).map stored).toArray,
        ((offsetEntries unit.width Char.utf8Size 0 s).map stored).toArray⟩ := by
  have hsize : 0 + byteLength s < UInt64.size :=
    Nat.lt_of_le_of_lt (by simpa using hlength) (by decide)
  simpa [ofText] using fill_eq 0 0 #[] #[] rfl hsize

/-- Looking up words gives the offsets of a table, as long as none of them is the word that stands
where there is none. -/
theorem filter_stored {entries : List (Option Nat)} {index : Nat}
    (h : ∀ offset, entries[index]? = some (some offset) → offset < unmapped.toNat) :
    (((entries.map stored).toArray[index]?).filter (· ≠ unmapped)).map UInt64.toNat =
      (entries[index]?).join := by
  rw [List.getElem?_toArray, List.getElem?_map]
  match hentry : entries[index]? with
  | none => rfl
  | some none => simp [stored]
  | some (some offset) =>
    have hlt := h offset hentry
    have htoNat : (UInt64.ofNat offset).toNat = offset :=
      UInt64.toNat_ofNat_of_lt' (Nat.lt_trans hlt (by decide))
    have hne : UInt64.ofNat offset ≠ unmapped := by
      intro heq
      rw [← heq, htoNat] at hlt
      exact Nat.lt_irrefl _ hlt
    simp [stored, hne, htoNat]

end OffsetWords

/-- The map of a text is that of its tables, also where the tables are left out. -/
theorem unitAt?_eq_entry (unit : CodeUnit) (s : List Char) (byte : Nat) :
    (OffsetMap.ofText unit s).unitAt? byte =
      ((offsetEntries Char.utf8Size unit.width 0 s)[byte]?).join := by
  ext column
  simp only [unitAt?_eq_some_iff, Option.join_eq_some_iff,
    getElem?_offsetEntries Char.utf8Size_pos, SamePlace, byteLength_eq_sum, unitLength_eq_sum,
    Nat.zero_add]

theorem byteAt?_eq_entry (unit : CodeUnit) (s : List Char) (column : Nat) :
    (OffsetMap.ofText unit s).byteAt? column =
      ((offsetEntries unit.width Char.utf8Size 0 s)[column]?).join := by
  ext byte
  simp only [byteAt?_eq_some_iff, Option.join_eq_some_iff,
    getElem?_offsetEntries unit.width_pos, SamePlace, byteLength_eq_sum, unitLength_eq_sum,
    Nat.zero_add]
  exact exists_congr fun front => and_congr_right fun _ => and_comm

/-- The map of a text has no byte offset just for the columns behind its end and on the second half
of a pair. -/
theorem byteAt?_eq_none_iff {unit : CodeUnit} {s : List Char} {column : Nat} :
    (OffsetMap.ofText unit s).byteAt? column = none ↔
      unitLength unit s < column ∨ IsSecondHalf unit s column := by
  rw [Option.eq_none_iff_forall_ne_some, ← forall_not_samePlace_iff]
  exact forall_congr' fun byte => not_congr byteAt?_eq_some_iff

/-! ## The two maps of a buffer -/

/-- What the offset maps of a buffer promise: columns for just the boundaries, each of them the
number of code units before it, and byte offsets for just those columns. -/
structure Buffer.MapsExactly (b : Buffer) : Prop where
  isSome_unit_iff : ∀ byte,
    (b.tryUnitOffset byte).isSome = true ↔ isBoundary b.text byte = true
  unit_eq_sum : ∀ front back, b.text = front ++ back →
    b.tryUnitOffset (GrammarScan.byteLength front) = some (front.map b.codeUnit.width).sum
  byte_iff : ∀ byte column,
    b.tryByteOffset column = some byte ↔ b.tryUnitOffset byte = some column
  byte_eq_none_iff : ∀ column, b.tryByteOffset column = none ↔
    b.unitLength < column ∨ IsSecondHalf b.codeUnit b.text column
  unit_stop : b.tryUnitOffset b.byteLength = some b.unitLength
  unit_lt : ∀ {byte byte' column column'}, b.tryUnitOffset byte = some column →
    b.tryUnitOffset byte' = some column' → byte < byte' → column < column'
  byte_lt : ∀ {byte byte' column column'}, b.tryByteOffset column = some byte →
    b.tryByteOffset column' = some byte' → column < column' → byte < byte'

/-- Tables in memory that hold the offset maps of a buffer: looking up a word gives the offset that
the map gives, and no offset is the word that stands where there is none. -/
structure OffsetWords.Hold (words : OffsetWords) (b : Buffer) : Prop where
  unitLength_eq : words.unitLength.toNat = b.unitLength
  unitAt_eq : ∀ byte, (words.unitAt? byte).map UInt64.toNat = b.tryUnitOffset byte.toNat
  byteAt_eq : ∀ column, (words.byteAt? column).map UInt64.toNat = b.tryByteOffset column.toNat
  ne_unmapped : ∀ {byte column}, b.tryUnitOffset byte = some column →
    byte < unmapped.toNat ∧ column < unmapped.toNat

/-- The offset maps of a text are exact and inverse to each other, and the tables in machine words
that one pass over the text fills hold them, for every text that memory can hold. -/
theorem offsets_exact_and_held (id : BufferId) {s : List Char}
    (hlength : byteLength s ≤ longestText) (unit : CodeUnit) :
    (Buffer.ofText id s unit).MapsExactly ∧
      (OffsetWords.ofText unit s).Hold (Buffer.ofText id s unit) := by
  have hunit {byte column : Nat} :
      (Buffer.ofText id s unit).tryUnitOffset byte = some column ↔ SamePlace unit s byte column :=
    unitAt?_eq_some_iff
  have hbyte {byte column : Nat} :
      (Buffer.ofText id s unit).tryByteOffset column = some byte ↔ SamePlace unit s byte column :=
    byteAt?_eq_some_iff
  have hbelow {offset : Nat} (h : offset ≤ byteLength s) : offset < unmapped.toNat :=
    Nat.lt_of_le_of_lt (Nat.le_trans h hlength) (by decide)
  constructor
  · constructor
    · intro byte
      rw [Option.isSome_iff_exists, isBoundary_iff_samePlace unit]
      exact exists_congr fun column => hunit
    · rintro front back rfl
      exact hunit.mpr ⟨front, List.prefix_append front back, rfl, unitLength_eq_sum unit front⟩
    · exact fun byte column => hbyte.trans hunit.symm
    · intro column
      rw [Option.eq_none_iff_forall_ne_some]
      simp only [ne_eq, hbyte]
      exact forall_not_samePlace_iff
    · exact hunit.mpr ⟨s, List.prefix_rfl, rfl, rfl⟩
    · exact fun h h' => ((hunit.mp h).lt_iff (hunit.mp h')).mp
    · exact fun h h' => ((hbyte.mp h).lt_iff (hbyte.mp h')).mpr
  · constructor
    · rw [OffsetWords.ofText_eq hlength]
      exact UInt64.toNat_ofNat_of_lt'
        (Nat.lt_trans (hbelow (unitLength_le_byteLength unit s)) (by decide))
    · intro byte
      rw [OffsetWords.ofText_eq hlength, OffsetWords.unitAt?, OffsetWords.filter_stored]
      · exact (unitAt?_eq_entry unit s byte.toNat).symm
      · intro offset hentry
        rw [← Option.join_eq_some_iff, ← unitAt?_eq_entry, unitAt?_eq_some_iff] at hentry
        exact hbelow hentry.le.2
    · intro column
      rw [OffsetWords.ofText_eq hlength, OffsetWords.byteAt?, OffsetWords.filter_stored]
      · exact (byteAt?_eq_entry unit s column.toNat).symm
      · intro offset hentry
        rw [← Option.join_eq_some_iff, ← byteAt?_eq_entry, byteAt?_eq_some_iff] at hentry
        exact hbelow hentry.le.1
    · intro byte column h
      have hle := (hunit.mp h).le
      exact ⟨hbelow hle.1, hbelow hle.2⟩

/-- A character of two bytes and one that is a pair in UTF-16. -/
theorem offsets_exact_and_held_pair :
    byteLength "é😀".toList ≤ longestText ∧
      (Buffer.ofText ⟨0⟩ "é😀".toList .utf16).tryUnitOffset 6 = some 3 ∧
      (Buffer.ofText ⟨0⟩ "é😀".toList .utf16).tryByteOffset 1 = some 2 ∧
      (Buffer.ofText ⟨0⟩ "é😀".toList .utf16).tryByteOffset 2 = none ∧
      (OffsetWords.ofText .utf16 "é😀".toList).byteAt? 2 = none := by
  have hlength : byteLength "é😀".toList ≤ longestText := by decide
  obtain ⟨hexact, hheld⟩ := offsets_exact_and_held ⟨0⟩ hlength .utf16
  have hsecond : (Buffer.ofText ⟨0⟩ "é😀".toList .utf16).tryByteOffset 2 = none :=
    (hexact.byte_eq_none_iff 2).mpr (.inr ⟨rfl, 0xDE00, by decide⟩)
  refine ⟨hlength, hexact.unit_stop, ?_, hsecond, ?_⟩
  · exact (hexact.byte_iff 2 1).mpr (hexact.unit_eq_sum ['é'] ['😀'] rfl)
  · have hword := hheld.byteAt_eq 2
    rw [show (2 : UInt64).toNat = 2 from rfl, hsecond] at hword
    exact Option.map_eq_none_iff.mp hword

end GrammarScan
