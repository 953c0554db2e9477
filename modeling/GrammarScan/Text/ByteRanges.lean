import GrammarScan.CharSet

/-!
# Sets of characters as sequences of byte ranges

An automaton that reads bytes tells the characters of a set apart by their UTF-8 forms. A range of
code points is cut where the length of the form changes and where the last bytes do not run through
all their values; each part is one sequence of byte ranges, and the sequences of a set come in
increasing order.
-/

namespace GrammarScan

/-- Closed ranges of bytes, one for each place of a form. -/
abbrev ByteRanges := List (Nat × Nat)

/-- The bytes of a code point in UTF-8. -/
def codeBytes (n : Nat) : List Nat :=
  if n < 0x80 then [n]
  else if n < 0x800 then [0xC0 + n / 0x40, 0x80 + n % 0x40]
  else if n < 0x10000 then [0xE0 + n / 0x1000, 0x80 + n / 0x40 % 0x40, 0x80 + n % 0x40]
  else [0xF0 + n / 0x40000, 0x80 + n / 0x1000 % 0x40, 0x80 + n / 0x40 % 0x40, 0x80 + n % 0x40]

/-- Where a range has to be cut because its ends differ in more than the places of a block of code
points whose rest does not run through all its values. -/
def blockCut? (lo hi block : Nat) : Option Nat :=
  if lo / block = hi / block then none
  else if lo % block ≠ 0 then some (lo / block * block + block - 1)
  else if hi % block ≠ block - 1 then some (hi / block * block - 1)
  else none

/-- The last code point of the first part of a range that is no single sequence. -/
def cut? (lo hi : Nat) : Option Nat :=
  match [0x7F, 0x7FF, 0xFFFF].find? fun last => lo ≤ last && last < hi with
  | some last => some last
  | none => if hi ≤ 0x7F then none else [0x40, 0x1000, 0x40000].findSome? (blockCut? lo hi)

/-- The sequences of a range. A range is cut at most a few times for each length of form, so a
small `fuel` is enough. -/
def rangeSequences : (fuel lo hi : Nat) → List ByteRanges
  | 0, _, _ => []
  | fuel + 1, lo, hi =>
    match cut? lo hi with
    | some last => rangeSequences fuel lo last ++ rangeSequences fuel (last + 1) hi
    | none => [(codeBytes lo).zip (codeBytes hi)]

/-- The parts of a range below and above the surrogates. -/
def aroundSurrogates (range : Nat × Nat) : List (Nat × Nat) :=
  [(range.1, min range.2 0xD7FF), (max range.1 0xE000, range.2)].filter fun r => r.1 ≤ r.2

/-- The sequences of a set. -/
def CharSet.byteSequences (s : CharSet) : List ByteRanges :=
  (s.ranges.flatMap aroundSurrogates).flatMap fun r => rangeSequences 32 r.1 r.2

end GrammarScan
