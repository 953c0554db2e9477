import GrammarScan.Text.Buffer
import Mathlib

/-!
# Columns and boundaries

The map of a text answers for a column only where a character starts or the text ends, and what it
answers is the byte offset of a boundary. The other way round it has a column for every boundary.
This holds of the tables as well as of the identity that stands in for them where all characters are
ASCII characters. Between two boundaries, in their order, lies a slice of the text.
-/

namespace GrammarScan

theorem byteLength_eq_sum (s : List Char) : byteLength s = (s.map Char.utf8Size).sum := by
  induction s with
  | nil => rfl
  | cons c s ih => simp [byteLength, ih]

theorem unitLength_eq_sum (unit : CodeUnit) (s : List Char) :
    unitLength unit s = (s.map unit.width).sum := by
  induction s with
  | nil => rfl
  | cons c s ih => simp [unitLength, ih]

section Entries

variable {width size : Char → Nat} {first index value : Nat} {s : List Char}

/-- Behind the padding of a character stand the entries for what follows. -/
theorem getElem?_padding_append {α : Type} {count : Nat} {entries : List (Option α)} {a : α} :
    (List.replicate count none ++ entries)[index]? = some (some a) ↔
      ∃ rest, index = count + rest ∧ entries[rest]? = some (some a) := by
  rw [List.getElem?_append]
  split
  · next hlt =>
    rw [List.length_replicate] at hlt
    simp only [List.getElem?_replicate, hlt, if_true, Option.some.injEq, reduceCtorEq, false_iff]
    rintro ⟨rest, rfl, -⟩
    omega
  · next hle =>
    rw [List.length_replicate] at hle ⊢
    constructor
    · exact fun h => ⟨index - count, by omega, h⟩
    · rintro ⟨rest, rfl, h⟩
      rwa [Nat.add_sub_cancel_left]

/-- An offset stands in a table just for the place behind some characters: under the width of those
it holds their size. -/
theorem getElem?_offsetEntries (hwidth : ∀ c, 0 < width c) :
    (offsetEntries width size first s)[index]? = some (some value) ↔
      ∃ front, front <+: s ∧ (front.map width).sum = index ∧
        first + (front.map size).sum = value := by
  induction s generalizing first index with
  | nil =>
    simp only [List.prefix_nil, exists_eq_left, List.map_nil, List.sum_nil, Nat.add_zero]
    cases index with
    | zero => simp [offsetEntries]
    | succ index => simp [offsetEntries]
  | cons c s ih =>
    cases index with
    | zero =>
      simp only [offsetEntries, List.getElem?_cons_zero, Option.some.injEq]
      constructor
      · exact fun h => ⟨[], List.nil_prefix, rfl, h⟩
      · rintro ⟨_ | ⟨d, front⟩, -, hsum, hvalue⟩
        · exact hvalue
        · have hpos := hwidth d
          simp only [List.map_cons, List.sum_cons] at hsum
          omega
    | succ index =>
      simp only [offsetEntries, List.getElem?_cons_succ, getElem?_padding_append, ih]
      have hpos := hwidth c
      constructor
      · rintro ⟨rest, rfl, front, hfront, rfl, rfl⟩
        refine ⟨c :: front, List.cons_prefix_cons.mpr ⟨rfl, hfront⟩, ?_, ?_⟩
        · simp only [List.map_cons, List.sum_cons]
          omega
        · simp only [List.map_cons, List.sum_cons, Nat.add_assoc]
      · rintro ⟨_ | ⟨d, front⟩, hfront, hsum, rfl⟩
        · simp at hsum
        · obtain ⟨rfl, hrest⟩ := List.cons_prefix_cons.mp hfront
          simp only [List.map_cons, List.sum_cons] at hsum
          refine ⟨(front.map width).sum, by omega, front, hrest, rfl, ?_⟩
          simp only [List.map_cons, List.sum_cons, Nat.add_assoc]

end Entries


/-- A byte offset and a column of a text that stand behind the same characters. -/
def SamePlace (unit : CodeUnit) (s : List Char) (byte column : Nat) : Prop :=
  ∃ front, front <+: s ∧ byteLength front = byte ∧ unitLength unit front = column

section Places

variable {unit : CodeUnit} {s : List Char} {byte column : Nat}

/-- A character is no ASCII character unless it is one byte and one code unit wide. -/
theorem widths_of_isAscii (unit : CodeUnit) {c : Char} (h : c.toNat < 0x80) :
    c.utf8Size = 1 ∧ unit.width c = 1 := by
  refine ⟨Char.utf8Size_eq_one_iff.mpr ?_, ?_⟩
  · rw [UInt32.le_iff_toNat_le]
    exact Nat.le_of_lt_succ h
  · cases unit
    · simp only [CodeUnit.width]
      rw [if_pos (by omega)]
    · rfl

/-- In a text of ASCII characters bytes and code units are counted alike. -/
theorem lengths_of_isAscii (unit : CodeUnit) (h : isAscii s = true) :
    byteLength s = s.length ∧ unitLength unit s = s.length := by
  induction s with
  | nil => exact ⟨rfl, rfl⟩
  | cons c s ih =>
    simp only [isAscii, List.all_cons, Bool.and_eq_true, decide_eq_true_eq] at h
    obtain ⟨hbytes, hunits⟩ := ih h.2
    obtain ⟨hsize, hwidth⟩ := widths_of_isAscii unit h.1
    simp only [byteLength, unitLength, hsize, hwidth, hbytes, hunits, List.length_cons]
    omega

/-- The beginnings of a text of ASCII characters are such texts. -/
theorem isAscii_of_isPrefix {front : List Char} (hfront : front <+: s) (h : isAscii s = true) :
    isAscii front = true := by
  rw [isAscii, List.all_eq_true] at h ⊢
  exact fun c hc => h c (hfront.subset hc)

/-- In a text of ASCII characters the places are those up to its length, and both offsets of a place
are the same. -/
theorem samePlace_of_isAscii (unit : CodeUnit) (h : isAscii s = true) :
    SamePlace unit s byte column ↔ byte ≤ byteLength s ∧ byte = column := by
  rw [(lengths_of_isAscii unit h).1]
  constructor
  · rintro ⟨front, hfirst, rfl, rfl⟩
    obtain ⟨hbytes, hunits⟩ := lengths_of_isAscii unit (isAscii_of_isPrefix hfirst h)
    rw [hbytes, hunits]
    exact ⟨hfirst.length_le, rfl⟩
  · rintro ⟨hle, rfl⟩
    have hfirst := List.take_prefix byte s
    obtain ⟨hbytes, hunits⟩ := lengths_of_isAscii unit (isAscii_of_isPrefix hfirst h)
    rw [List.length_take_of_le hle] at hbytes hunits
    exact ⟨s.take byte, hfirst, hbytes, hunits⟩

/-- The map of a text has a column for a byte offset just if the two stand for the same place. -/
theorem unitAt?_eq_some_iff :
    (OffsetMap.ofText unit s).unitAt? byte = some column ↔ SamePlace unit s byte column := by
  unfold OffsetMap.ofText
  split
  · next hascii =>
    rw [samePlace_of_isAscii unit hascii]
    simp [OffsetMap.unitAt?]
  · simp only [OffsetMap.unitAt?, OffsetTable.ofText, List.getElem?_toArray,
      Option.join_eq_some_iff, getElem?_offsetEntries Char.utf8Size_pos, SamePlace,
      byteLength_eq_sum, unitLength_eq_sum, Nat.zero_add]

/-- The map of a text has a byte offset for a column just if the two stand for the same place. -/
theorem byteAt?_eq_some_iff :
    (OffsetMap.ofText unit s).byteAt? column = some byte ↔ SamePlace unit s byte column := by
  unfold OffsetMap.ofText
  split
  · next hascii =>
    rw [samePlace_of_isAscii unit hascii]
    simp only [OffsetMap.byteAt?, Option.ite_none_right_eq_some, Option.some.injEq]
    constructor <;>
    · rintro ⟨hle, rfl⟩
      exact ⟨hle, rfl⟩
  · simp only [OffsetMap.byteAt?, OffsetTable.ofText, List.getElem?_toArray,
      Option.join_eq_some_iff, getElem?_offsetEntries unit.width_pos, SamePlace,
      byteLength_eq_sum, unitLength_eq_sum, Nat.zero_add]
    exact exists_congr fun front => and_congr_right fun _ => and_comm

/-- A byte offset is a boundary just if there is a column for the place. -/
theorem isBoundary_iff_samePlace (unit : CodeUnit) :
    isBoundary s byte = true ↔ ∃ column, SamePlace unit s byte column := by
  rw [isBoundary_iff]
  constructor
  · rintro ⟨front, back, rfl, rfl⟩
    exact ⟨_, front, List.prefix_append front back, rfl, rfl⟩
  · rintro ⟨_, front, ⟨back, rfl⟩, rfl, rfl⟩
    exact ⟨front, back, rfl, rfl⟩

end Places

/-- The boundaries of a text are where a number of its characters ends. -/
theorem isBoundary_iff_take {s : List Char} {offset : Nat} :
    isBoundary s offset = true ↔ ∃ count ≤ s.length, byteLength (s.take count) = offset := by
  rw [isBoundary_iff]
  constructor
  · rintro ⟨front, back, rfl, rfl⟩
    exact ⟨front.length, by simp, by simp⟩
  · rintro ⟨count, -, rfl⟩
    exact ⟨s.take count, s.drop count, (List.take_append_drop count s).symm, rfl⟩

/-- Behind a character the offset is larger by its bytes. -/
theorem byteLength_take_succ {s : List Char} {count : Nat} (h : count < s.length) :
    byteLength (s.take (count + 1)) = byteLength (s.take count) + s[count].utf8Size := by
  rw [List.take_succ_eq_append_getElem h, byteLength_append]
  rfl

/-- More characters end no earlier. -/
theorem byteLength_take_mono (s : List Char) {count more : Nat} (h : count ≤ more) :
    byteLength (s.take count) ≤ byteLength (s.take more) := by
  have htake : s.take count = (s.take more).take count := by
    rw [List.take_take, Nat.min_eq_left h]
  have hsplit := congrArg byteLength (List.take_append_drop count (s.take more))
  rw [byteLength_append, ← htake] at hsplit
  omega

/-- Offsets of boundaries are ordered as the numbers of characters before them. -/
theorem le_of_byteLength_take_le {s : List Char} {count more : Nat} (hcount : count ≤ s.length)
    (h : byteLength (s.take count) ≤ byteLength (s.take more)) : count ≤ more := by
  apply Nat.not_lt.mp
  intro hlt
  have hmore : more < s.length := Nat.lt_of_lt_of_le hlt hcount
  have hnext := byteLength_take_mono s hlt
  have hpos := Char.utf8Size_pos s[more]
  rw [byteLength_take_succ hmore] at hnext
  omega

/-- No bytes are taken up in front of the first character only. -/
theorem byteLength_take_eq_zero {s : List Char} {count : Nat} (hcount : count ≤ s.length) :
    byteLength (s.take count) = 0 ↔ count = 0 := by
  constructor
  · intro h
    have hle : byteLength (s.take count) ≤ byteLength (s.take 0) := h.le
    exact Nat.le_zero.mp (le_of_byteLength_take_le hcount hle)
  · rintro rfl
    rfl

/-- The boundaries of a text lie within it. -/
theorem le_byteLength_of_isBoundary {s : List Char} {offset : Nat}
    (h : isBoundary s offset = true) : offset ≤ byteLength s := by
  obtain ⟨front, back, rfl, rfl⟩ := isBoundary_iff.mp h
  rw [byteLength_append]
  exact Nat.le_add_right _ _

/-- A slice of a text is what stands between two of its boundaries. -/
theorem slice?_eq_some_iff {s text : List Char} {range : Span} : slice? s range = some text ↔
    ∃ front back, s = front ++ text ++ back ∧ byteLength front = range.start ∧
      byteLength (front ++ text) = range.stop := by
  constructor
  · intro h
    unfold slice? at h
    split at h
    · next hle =>
      obtain ⟨⟨front, rest⟩, hfront, h⟩ := Option.bind_eq_some_iff.mp h
      obtain ⟨⟨middle, back⟩, hmiddle, h⟩ := Option.bind_eq_some_iff.mp h
      obtain rfl := Option.some.inj h
      obtain ⟨rfl, hstart⟩ := splitAtByte?_eq_some hfront
      obtain ⟨rfl, hlength⟩ := splitAtByte?_eq_some hmiddle
      exact ⟨front, back, (List.append_assoc _ _ _).symm, hstart, by rw [byteLength_append]; omega⟩
    · simp at h
  · rintro ⟨front, back, rfl, hstart, hstop⟩
    rw [byteLength_append] at hstop
    have hlength : range.stop - range.start = byteLength text := by omega
    rw [slice?, if_pos (by omega), hlength, ← hstart, List.append_assoc, splitAtByte?_append]
    simp [splitAtByte?_append]

/-- Between two boundaries in their order lies a slice of the text. -/
theorem isSome_slice? {s : List Char} {range : Span} (hle : range.start ≤ range.stop)
    (hstart : isBoundary s range.start = true) (hstop : isBoundary s range.stop = true) :
    (slice? s range).isSome = true := by
  obtain ⟨count, hcount, hfirst⟩ := isBoundary_iff_take.mp hstart
  obtain ⟨more, -, hlast⟩ := isBoundary_iff_take.mp hstop
  have hmore : count ≤ more := le_of_byteLength_take_le hcount (by omega)
  -- The characters up to the stop are those up to the start and some more.
  have hfront : s.take more = s.take count ++ (s.drop count).take (more - count) := by
    rw [← List.take_add, Nat.add_sub_cancel' hmore]
  have hslice : slice? s range = some ((s.drop count).take (more - count)) := by
    rw [slice?_eq_some_iff]
    refine ⟨s.take count, s.drop more, ?_, hfirst, by rw [← hfront, hlast]⟩
    rw [← hfront, List.take_append_drop]
  rw [hslice]
  rfl

end GrammarScan
