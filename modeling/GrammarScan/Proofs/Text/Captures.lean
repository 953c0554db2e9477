import GrammarScan.Proofs.Text.Selections

/-!
# Captures that can be used

Captures are well-formed if the overall match is there and every range runs forward between two
boundaries of the text. That is all it takes to use them: the text of every group that took part can
be read, all ranges can be turned into columns, and the captures can be put together again from
their ranges.
-/

namespace GrammarScan

/-- Captures whose overall match is there, and whose ranges run forward between boundaries. -/
structure Captures.WellFormed (c : Captures) (text : List Char) : Prop where
  overall : (c.get? 0).isSome = true
  forward : ∀ index range, c.get? index = some range → range.start ≤ range.stop
  boundaries : ∀ index range, c.get? index = some range →
    isBoundary text range.start = true ∧ isBoundary text range.stop = true

/-- What captures are used for: reading the text of their groups, turning their ranges into columns,
and putting them together again. -/
structure Captures.ServeFor (c : Captures) (b : Buffer) : Prop where
  wellFormed : c.WellFormed b.text
  range : c.start ≤ c.stop ∧ c.stop ≤ b.byteLength
  text : ∀ index range, c.get? index = some range → (c.text? index b).isSome = true
  codeUnits : ∃ units, c.toCodeUnits b = .ok units
  ofRanges : Captures.ofRanges c.groups = .ok c

namespace Captures.WellFormed

variable {c : Captures} {b : Buffer} {text : List Char}

/-- The range of the overall match is that of the first entry. -/
theorem get?_zero (h : c.WellFormed text) : c.get? 0 = some c.range := by
  obtain ⟨range, hrange⟩ := Option.isSome_iff_exists.mp h.overall
  rw [Captures.range, hrange, Option.getD_some]

/-- The overall match ends at a boundary. -/
theorem isBoundary_stop (h : c.WellFormed text) : isBoundary text c.stop = true :=
  (h.boundaries 0 c.range h.get?_zero).2

/-- The overall match ends within the text and not before its start. -/
theorem range_le (h : c.WellFormed text) : c.start ≤ c.stop ∧ c.stop ≤ byteLength text :=
  ⟨h.forward 0 c.range h.get?_zero, le_byteLength_of_isBoundary h.isBoundary_stop⟩

/-- The text of a group that took part can be read. -/
theorem isSome_text? (h : c.WellFormed b.text) {index : Nat} {range : Span}
    (hrange : c.get? index = some range) : (c.text? index b).isSome = true := by
  obtain ⟨hstart, hstop⟩ := h.boundaries index range hrange
  rw [Captures.text?, hrange, Option.bind_some]
  exact isSome_slice? (h.forward index range hrange) hstart hstop

/-- Entries of captures are what can be asked for by their places. -/
theorem exists_get?_of_mem {range : Span} (h : some range ∈ c.groups) :
    ∃ index, c.get? index = some range := by
  obtain ⟨index, hindex⟩ := List.getElem?_of_mem h
  exact ⟨index, by rw [Captures.get?, hindex, Option.join_some]⟩

/-- In a buffer with the map of its text all ranges can be turned into columns. -/
theorem exists_toCodeUnits (h : c.WellFormed b.text)
    (hmap : b.offsets = .ofText b.codeUnit b.text) : ∃ units, c.toCodeUnits b = .ok units := by
  refine (exists_toCodeUnits_iff hmap).mpr fun range hrange => ?_
  obtain ⟨index, hindex⟩ := exists_get?_of_mem hrange
  exact h.boundaries index range hindex

/-- The ranges of captures pass the check for captures that are put together. -/
theorem ofRanges_groups (h : c.WellFormed text) : Captures.ofRanges c.groups = .ok c := by
  have hforward : c.groups.all (fun g => g.all fun r => r.start ≤ r.stop) = true := by
    rw [List.all_eq_true]
    intro entry hentry
    cases entry with
    | none => rfl
    | some range =>
      obtain ⟨index, hindex⟩ := exists_get?_of_mem hentry
      simpa using h.forward index range hindex
  obtain ⟨groups⟩ := c
  have hoverall := h.overall
  cases groups with
  | nil => simp [Captures.get?] at hoverall
  | cons entry rest =>
    cases entry with
    | none => simp [Captures.get?] at hoverall
    | some range => exact if_pos hforward

/-- Well-formed captures serve for a buffer with the map of its text. -/
theorem serveFor (h : c.WellFormed b.text) (hmap : b.offsets = .ofText b.codeUnit b.text) :
    c.ServeFor b :=
  ⟨h, h.range_le, fun _ _ => h.isSome_text?, h.exists_toCodeUnits hmap, h.ofRanges_groups⟩

/-- Captures are well-formed if their entries are between places of the text in their order. -/
theorem of_spanOf (hoverall : (c.get? 0).isSome = true)
    (hspans : ∀ index range, c.get? index = some range →
      ∃ start stop, start ≤ stop ∧ stop ≤ text.length ∧ range = spanOf text start stop) :
    c.WellFormed text := by
  refine ⟨hoverall, fun index range hrange => ?_, fun index range hrange => ?_⟩
  · obtain ⟨start, stop, hle, -, rfl⟩ := hspans index range hrange
    exact byteLength_take_mono text hle
  · obtain ⟨start, stop, hle, hstop, rfl⟩ := hspans index range hrange
    exact ⟨isBoundary_iff_take.mpr ⟨start, hle.trans hstop, rfl⟩,
      isBoundary_iff_take.mpr ⟨stop, hstop, rfl⟩⟩

end Captures.WellFormed

end GrammarScan
