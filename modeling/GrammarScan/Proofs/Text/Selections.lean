import GrammarScan.Captures
import GrammarScan.Proofs.Ensures
import GrammarScan.Proofs.Text.Surrogates

/-!
# Selections in code units

An editor selects text by a range of columns and cuts it out of the code units of a line. Such a
range selects the same text as a range of bytes if the ends of both stand for the same places, and
ranges that are related in this way lie to each other as the ranges of bytes do. Captures are
translated into them entry by entry, and that fails only where a range does not end on boundaries.
-/

namespace GrammarScan

/-! ## Code units of a text -/

/-- The code units of a text as numbers: those of its UTF-16 form, or its characters. -/
def codeUnits : CodeUnit → List Char → List Nat
  | .utf16, s => (encode16 s).map UInt16.toNat
  | .utf32, s => s.map Char.toNat

theorem codeUnits_append (unit : CodeUnit) (s t : List Char) :
    codeUnits unit (s ++ t) = codeUnits unit s ++ codeUnits unit t := by
  cases unit with
  | utf16 => rw [codeUnits, encode16_append, List.map_append]; rfl
  | utf32 => exact List.map_append

/-- A text has as many code units as it is long in them. -/
theorem length_codeUnits (unit : CodeUnit) (s : List Char) :
    (codeUnits unit s).length = unitLength unit s := by
  cases unit with
  | utf16 => rw [codeUnits, List.length_map, length_encode16]
  | utf32 =>
    induction s with
    | nil => rfl
    | cons c s ih => simpa [codeUnits, unitLength, CodeUnit.width, Nat.add_comm] using ih

/-- What stands in the middle of a text is cut out of its code units. -/
theorem extract_codeUnits (unit : CodeUnit) (front middle back : List Char) :
    (codeUnits unit (front ++ middle ++ back)).extract (unitLength unit front)
      (unitLength unit (front ++ middle)) = codeUnits unit middle := by
  have hlength : unitLength unit (front ++ middle) - unitLength unit front =
      (codeUnits unit middle).length := by
    rw [unitLength_append, length_codeUnits, Nat.add_sub_cancel_left]
  rw [List.extract_eq_take_drop, hlength, ← length_codeUnits, List.append_assoc,
    codeUnits_append, List.drop_left, codeUnits_append, List.take_left]

/-! ## Selections -/

/-- Whether one range holds another. -/
def Span.Holds (outer inner : Span) : Prop :=
  outer.start ≤ inner.start ∧ inner.stop ≤ outer.stop

/-- Whether one range ends before another starts, or just there. -/
def Span.Precedes (first later : Span) : Prop := first.stop ≤ later.start

/-- Two ranges and two others that are nested alike and come in the same order. -/
structure Span.LieAlike (range range' columns columns' : Span) : Prop where
  holds_iff : range.Holds range' ↔ columns.Holds columns'
  precedes_iff : range.Precedes range' ↔ columns.Precedes columns'
  start_le_iff : range.start ≤ range'.start ↔ columns.start ≤ columns'.start
  stop_le_iff : range.stop ≤ range'.stop ↔ columns.stop ≤ columns'.stop

section

variable {unit : CodeUnit} {s : List Char}

/-- The characters before a place tell its column. -/
theorem SamePlace.column_eq {front : List Char} {column : Nat}
    (h : SamePlace unit s (byteLength front) column) (hfront : front <+: s) :
    column = unitLength unit front := by
  have hplace : SamePlace unit s (byteLength front) (unitLength unit front) :=
    ⟨front, hfront, rfl, rfl⟩
  exact Nat.le_antisymm ((h.le_iff hplace).mp (Nat.le_refl _))
    ((hplace.le_iff h).mp (Nat.le_refl _))

/-- A range of bytes and a range of columns whose ends stand for the same places. -/
structure SameSelection (unit : CodeUnit) (s : List Char) (range columns : Span) : Prop where
  start : SamePlace unit s range.start columns.start
  stop : SamePlace unit s range.stop columns.stop

variable {range range' columns columns' : Span}

/-- Ranges that select the same texts lie alike. -/
theorem SameSelection.lieAlike (h : SameSelection unit s range columns)
    (h' : SameSelection unit s range' columns') : range.LieAlike range' columns columns' where
  holds_iff := and_congr (h.start.le_iff h'.start) (h'.stop.le_iff h.stop)
  precedes_iff := h.stop.le_iff h'.start
  start_le_iff := h.start.le_iff h'.start
  stop_le_iff := h.stop.le_iff h'.stop

/-- The same text is cut out of the bytes and out of the code units. -/
theorem SameSelection.exists_slice (h : SameSelection unit s range columns)
    (hle : range.start ≤ range.stop) : ∃ text, slice? s range = some text ∧
      (codeUnits unit s).extract columns.start columns.stop = codeUnits unit text := by
  obtain ⟨text, htext⟩ := Option.isSome_iff_exists.mp
    (isSome_slice? hle ((isBoundary_iff_samePlace unit).mpr ⟨_, h.start⟩)
      ((isBoundary_iff_samePlace unit).mpr ⟨_, h.stop⟩))
  refine ⟨text, htext, ?_⟩
  obtain ⟨front, back, rfl, hstart, hstop⟩ := slice?_eq_some_iff.mp htext
  have hfirst : columns.start = unitLength unit front :=
    (hstart ▸ h.start).column_eq ⟨text ++ back, (List.append_assoc _ _ _).symm⟩
  have hlast : columns.stop = unitLength unit (front ++ text) :=
    (hstop ▸ h.stop).column_eq (List.prefix_append _ _)
  rw [hfirst, hlast, extract_codeUnits]

end

/-! ## Captures -/

namespace Captures

/-- Captures that are put together hold the given ranges, and these run forward. -/
theorem ofRanges_eq_ok {groups : List (Option Span)} {c : Captures}
    (h : ofRanges groups = .ok c) :
    c.groups = groups ∧ ∀ range, some range ∈ groups → range.start ≤ range.stop := by
  unfold ofRanges at h
  split at h
  · split at h
    · next hforward =>
      obtain rfl := Except.ok.inj h
      rw [List.all_eq_true] at hforward
      exact ⟨rfl, fun range hrange => by simpa using hforward _ hrange⟩
    · simp at h
  · simp at h

/-- What the columns of captures promise: there is one entry for each entry of the captures, and it
selects the same text; entries lie to each other as those of the captures do. -/
structure TranslatedTo (c : Captures) (b : Buffer) (units : List (Option Span)) : Prop where
  length_eq : units.length = c.size
  none_iff : ∀ index : Nat, units[index]? = some none ↔ c.groups[index]? = some none
  selects : ∀ index range, c.get? index = some range → ∃ columns,
    units[index]? = some (some columns) ∧ columns.start ≤ columns.stop ∧
      b.byteOffset columns.start = .ok range.start ∧ b.byteOffset columns.stop = .ok range.stop ∧
      ∃ text, c.text? index b = some text ∧
        (codeUnits b.codeUnit b.text).extract columns.start columns.stop =
          codeUnits b.codeUnit text
  lieAlike : ∀ {index index' : Nat} {range range' columns columns' : Span},
    c.get? index = some range → units[index]? = some (some columns) →
    c.get? index' = some range' → units[index']? = some (some columns') →
    range.LieAlike range' columns columns'

section

variable {b : Buffer} {c : Captures} {units : List (Option Span)}

/-- Offsets are turned into columns just where both stand for a place of the text. -/
theorem unitOffset_eq_ok_iff (hmap : b.offsets = .ofText b.codeUnit b.text) {byte column : Nat} :
    b.unitOffset byte = .ok column ↔ SamePlace b.codeUnit b.text byte column := by
  rw [← unitAt?_eq_some_iff, ← hmap, Buffer.unitOffset, Buffer.tryUnitOffset]
  cases b.offsets.unitAt? byte <;> simp

theorem byteOffset_eq_ok_iff (hmap : b.offsets = .ofText b.codeUnit b.text) {byte column : Nat} :
    b.byteOffset column = .ok byte ↔ SamePlace b.codeUnit b.text byte column := by
  rw [← byteAt?_eq_some_iff, ← hmap, Buffer.byteOffset, Buffer.tryByteOffset]
  cases b.offsets.byteAt? column <;> simp

/-- The columns of a range are those of the range that selects the same text. -/
theorem spanUnits_eq_ok_iff (hmap : b.offsets = .ofText b.codeUnit b.text)
    {range columns : Span} :
    spanUnits b range = .ok columns ↔ SameSelection b.codeUnit b.text range columns := by
  constructor
  · intro h
    obtain ⟨start, hstart, h⟩ := exists_of_bind_eq_ok h
    obtain ⟨stop, hstop, h⟩ := exists_of_bind_eq_ok h
    obtain rfl := Except.ok.inj h
    exact ⟨(unitOffset_eq_ok_iff hmap).mp hstart, (unitOffset_eq_ok_iff hmap).mp hstop⟩
  · intro h
    rw [spanUnits, (unitOffset_eq_ok_iff hmap).mpr h.start, (unitOffset_eq_ok_iff hmap).mpr h.stop]
    rfl

/-- An entry that took no part has no columns. -/
theorem getElem?_toCodeUnits_eq_some_none_iff (h : c.toCodeUnits b = .ok units) (index : Nat) :
    units[index]? = some none ↔ c.groups[index]? = some none := by
  have hplace := congrArg (·[index]?) (mapM_eq_ok_iff.mp h)
  simp only [List.getElem?_map] at hplace
  constructor
  · intro hcolumns
    rw [hcolumns] at hplace
    obtain ⟨entry, hentry, hok⟩ := Option.map_eq_some_iff.mp hplace
    cases entry with
    | none => exact hentry
    | some range =>
      obtain ⟨columns, -, hnone⟩ := exists_of_map_eq_ok hok
      simp at hnone
  · intro hentry
    rw [hentry] at hplace
    obtain ⟨columns, hcolumns, hok⟩ := Option.map_eq_some_iff.mp hplace.symm
    rw [hcolumns, ← Except.ok.inj hok]

/-- An entry that took part has the columns of its range. -/
theorem exists_spanUnits_of_toCodeUnits (h : c.toCodeUnits b = .ok units) {index : Nat}
    {range : Span} (hrange : c.groups[index]? = some (some range)) :
    ∃ columns, units[index]? = some (some columns) ∧ spanUnits b range = .ok columns := by
  have hplace := congrArg (·[index]?) (mapM_eq_ok_iff.mp h)
  simp only [List.getElem?_map, hrange] at hplace
  obtain ⟨entry, hentry, hok⟩ := Option.map_eq_some_iff.mp hplace.symm
  obtain ⟨columns, hcolumns, rfl⟩ := exists_of_map_eq_ok hok.symm
  exact ⟨columns, hentry, hcolumns⟩

/-- Captures can be turned into columns just if all their ranges end on boundaries. -/
theorem exists_toCodeUnits_iff (hmap : b.offsets = .ofText b.codeUnit b.text) :
    (∃ units, c.toCodeUnits b = .ok units) ↔ ∀ range, some range ∈ c.groups →
      isBoundary b.text range.start = true ∧ isBoundary b.text range.stop = true := by
  constructor
  · rintro ⟨units, h⟩ range hrange
    obtain ⟨index, hindex⟩ := List.getElem?_of_mem hrange
    obtain ⟨columns, -, hcolumns⟩ := exists_spanUnits_of_toCodeUnits h hindex
    have hsame := (spanUnits_eq_ok_iff hmap).mp hcolumns
    exact ⟨(isBoundary_iff_samePlace b.codeUnit).mpr ⟨_, hsame.start⟩,
      (isBoundary_iff_samePlace b.codeUnit).mpr ⟨_, hsame.stop⟩⟩
  · intro h
    refine exists_mapM_eq_ok fun entry hentry => ?_
    cases entry with
    | none => exact ⟨none, rfl⟩
    | some range =>
      obtain ⟨hstart, hstop⟩ := h range hentry
      obtain ⟨first, hfirst⟩ := (isBoundary_iff_samePlace b.codeUnit).mp hstart
      obtain ⟨last, hlast⟩ := (isBoundary_iff_samePlace b.codeUnit).mp hstop
      have hcolumns : spanUnits b range = .ok ⟨first, last⟩ :=
        (spanUnits_eq_ok_iff hmap).mpr ⟨hfirst, hlast⟩
      exact ⟨some ⟨first, last⟩, congrArg (some <$> ·) hcolumns⟩

/-- What captures with ranges that run forward are turned into selects the same text. -/
theorem translatedTo_of_toCodeUnits (hmap : b.offsets = .ofText b.codeUnit b.text)
    (h : c.toCodeUnits b = .ok units)
    (hforward : ∀ range, some range ∈ c.groups → range.start ≤ range.stop) :
    c.TranslatedTo b units := by
  have hselection {index : Nat} {range columns : Span} (hrange : c.get? index = some range)
      (hcolumns : units[index]? = some (some columns)) :
      SameSelection b.codeUnit b.text range columns := by
    obtain ⟨_, hentry, hspan⟩ := exists_spanUnits_of_toCodeUnits h (get?_eq_some_iff.mp hrange)
    rw [hcolumns] at hentry
    obtain rfl := Option.some.inj (Option.some.inj hentry)
    exact (spanUnits_eq_ok_iff hmap).mp hspan
  constructor
  · have hlength := congrArg List.length (mapM_eq_ok_iff.mp h)
    simpa [Captures.size] using hlength.symm
  · exact getElem?_toCodeUnits_eq_some_none_iff h
  · intro index range hrange
    have hentry := get?_eq_some_iff.mp hrange
    have hle := hforward range (List.mem_of_getElem? hentry)
    obtain ⟨columns, hcolumns, -⟩ := exists_spanUnits_of_toCodeUnits h hentry
    have hsame := hselection hrange hcolumns
    obtain ⟨text, htext, hextract⟩ := hsame.exists_slice hle
    refine ⟨columns, hcolumns, (hsame.start.le_iff hsame.stop).mp hle,
      (byteOffset_eq_ok_iff hmap).mpr hsame.start, (byteOffset_eq_ok_iff hmap).mpr hsame.stop,
      text, ?_, hextract⟩
    rw [text?, hrange]
    exact htext
  · exact fun hrange hcolumns hrange' hcolumns' =>
      (hselection hrange hcolumns).lieAlike (hselection hrange' hcolumns')

end

end Captures

/-- Captures put together from ranges can be turned into the columns of a buffer just if all ranges
end on boundaries of its text. Then each entry selects in the code units of the text what it selects
in its bytes. -/
theorem toCodeUnits_selects (id : BufferId) (s : List Char) (unit : CodeUnit)
    {groups : List (Option Span)} {c : Captures} (h : Captures.ofRanges groups = .ok c) :
    ((∃ units, c.toCodeUnits (.ofText id s unit) = .ok units) ↔
        ∀ range, some range ∈ groups →
          isBoundary s range.start = true ∧ isBoundary s range.stop = true) ∧
      ∀ units, c.toCodeUnits (.ofText id s unit) = .ok units →
        c.TranslatedTo (.ofText id s unit) units := by
  obtain ⟨rfl, hforward⟩ := Captures.ofRanges_eq_ok h
  exact ⟨Captures.exists_toCodeUnits_iff rfl,
    fun units hunits => Captures.translatedTo_of_toCodeUnits rfl hunits hforward⟩

/-- A group that took no part, and one that holds a character of two code units. -/
theorem toCodeUnits_selects_pair :
    Captures.ofRanges [some ⟨0, 7⟩, none, some ⟨2, 6⟩] =
        .ok ⟨[some ⟨0, 7⟩, none, some ⟨2, 6⟩]⟩ ∧
      (Captures.mk [some ⟨0, 7⟩, none, some ⟨2, 6⟩]).TranslatedTo
        (.ofText ⟨0⟩ "é😀b".toList .utf16) [some ⟨0, 4⟩, none, some ⟨1, 3⟩] := by
  have h : Captures.ofRanges [some ⟨0, 7⟩, none, some ⟨2, 6⟩] =
    .ok ⟨[some ⟨0, 7⟩, none, some ⟨2, 6⟩]⟩ := by decide
  refine ⟨h, (toCodeUnits_selects ⟨0⟩ "é😀b".toList .utf16 h).2 _ ?_⟩
  decide

end GrammarScan
