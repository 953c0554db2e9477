/-!
# Byte offsets

A text is a list of characters. Its offsets count the bytes of its UTF-8 form, so an offset is a
boundary exactly when some leading characters fill it. Cutting at an offset fails off boundaries,
and a slice fails when one of its ends does.
-/

namespace GrammarScan

/-- A half-open range of offsets. -/
structure Span where
  start : Nat
  stop : Nat
  deriving DecidableEq, Inhabited, Repr

/-- The number of bytes in the UTF-8 form of a text. -/
def byteLength : List Char → Nat
  | [] => 0
  | c :: s => c.utf8Size + byteLength s

/-- The byte length of a concatenation is the sum of the byte lengths. -/
@[simp] theorem byteLength_append (s t : List Char) :
    byteLength (s ++ t) = byteLength s + byteLength t := by
  induction s with
  | nil => simp [byteLength]
  | cons c s ih => simp [byteLength, ih, Nat.add_assoc]

/-- The byte range between two places in a text, which are counted in characters. -/
def spanOf (text : List Char) (start stop : Nat) : Span :=
  ⟨byteLength (text.take start), byteLength (text.take stop)⟩

/-- Cuts a text at a byte offset, or fails when the offset is no boundary of it. -/
def splitAtByte? : List Char → Nat → Option (List Char × List Char)
  | s, 0 => some ([], s)
  | [], _ + 1 => none
  | c :: s, offset + 1 =>
    if c.utf8Size ≤ offset + 1 then
      (splitAtByte? s (offset + 1 - c.utf8Size)).map fun (front, back) => (c :: front, back)
    else none

/-- Whether a byte offset is a boundary between characters, or an end, of the text. -/
def isBoundary (s : List Char) (offset : Nat) : Bool := (splitAtByte? s offset).isSome

/-- The part of a text inside a range of byte offsets, or nothing when the range is reversed or an
end is no boundary. -/
def slice? (s : List Char) (range : Span) : Option (List Char) :=
  if range.start ≤ range.stop then do
    let (_, back) ← splitAtByte? s range.start
    let (middle, _) ← splitAtByte? back (range.stop - range.start)
    return middle
  else none

/-- The two parts of a cut join to the whole, and the first fills the offset. -/
theorem splitAtByte?_eq_some {s front back : List Char} {offset : Nat}
    (h : splitAtByte? s offset = some (front, back)) :
    s = front ++ back ∧ byteLength front = offset := by
  induction s generalizing offset front back with
  | nil =>
    cases offset with
    | zero =>
      simp only [splitAtByte?, Option.some.injEq, Prod.mk.injEq] at h
      simp [← h.1, ← h.2, byteLength]
    | succ n => simp [splitAtByte?] at h
  | cons c s ih =>
    cases offset with
    | zero =>
      simp only [splitAtByte?, Option.some.injEq, Prod.mk.injEq] at h
      simp [← h.1, ← h.2, byteLength]
    | succ n =>
      simp only [splitAtByte?] at h
      split at h
      · obtain ⟨⟨f, b⟩, hcut, heq⟩ := Option.map_eq_some_iff.1 h
        simp only [Prod.mk.injEq] at heq
        obtain ⟨rfl, rfl⟩ := heq
        obtain ⟨rfl, hlen⟩ := ih hcut
        exact ⟨rfl, by simp only [byteLength, hlen]; omega⟩
      · simp at h

/-- A text can be cut after any of its fronts. -/
theorem splitAtByte?_append (front back : List Char) :
    splitAtByte? (front ++ back) (byteLength front) = some (front, back) := by
  induction front with
  | nil => cases back <;> rfl
  | cons c front ih =>
    have hpos : 0 < c.utf8Size := Char.utf8Size_pos c
    obtain ⟨n, hn⟩ : ∃ n, byteLength (c :: front) = n + 1 := ⟨byteLength (c :: front) - 1, by
      simp only [byteLength]; omega⟩
    have hrest : n + 1 - c.utf8Size = byteLength front := by
      simp only [byteLength] at hn; omega
    rw [hn, List.cons_append, splitAtByte?, if_pos (by simp only [byteLength] at hn; omega), hrest,
      ih]
    rfl

/-- The boundaries of a text are the byte lengths of its fronts. -/
theorem isBoundary_iff {s : List Char} {offset : Nat} :
    isBoundary s offset = true ↔ ∃ front back, s = front ++ back ∧ byteLength front = offset := by
  constructor
  · intro h
    obtain ⟨⟨front, back⟩, hcut⟩ := Option.isSome_iff_exists.1 h
    exact ⟨front, back, splitAtByte?_eq_some hcut⟩
  · rintro ⟨front, back, rfl, rfl⟩
    simp [isBoundary, splitAtByte?_append]

end GrammarScan
