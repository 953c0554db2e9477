/-!
# Sets of characters

A set is kept as closed ranges of code points in increasing order, so membership can stop at the
first range that starts too late. Ranges that overlap or touch are joined whenever sets are united.
Code points that are no characters (the surrogates) may lie inside a range, but no range begins or
ends with one; no character is equal to one of them, so they never show. A range in front of them
and one behind them do not touch and stay apart, which `negate` depends on.
-/

namespace GrammarScan

/-- A set of characters, as increasing closed ranges of code points. -/
structure CharSet where
  ranges : List (Nat × Nat)
  deriving BEq, DecidableEq, Inhabited, Repr

namespace CharSet

/-- The last code point. -/
def lastCode : Nat := 0x10FFFF

/-- Whether `n` lies in one of the ranges, which are in increasing order. -/
def inRanges (n : Nat) : List (Nat × Nat) → Bool
  | [] => false
  | (lo, hi) :: rest => if n < lo then false else n ≤ hi || inRanges n rest

/-- Membership of a character. -/
def contains (s : CharSet) (c : Char) : Bool := inRanges c.toNat s.ranges

/-- The empty set. -/
def empty : CharSet := ⟨[]⟩

/-- The set of all characters. -/
def all : CharSet := ⟨[(0, lastCode)]⟩

/-- The closed range between two characters. -/
def range (lo hi : Char) : CharSet := ⟨[(lo.toNat, hi.toNat)]⟩

/-- The set of one character. -/
def single (c : Char) : CharSet := range c c

/-- Joins ranges that overlap or touch; `current` starts no later than the ranges that follow. -/
def coalesceFrom (current : Nat × Nat) : List (Nat × Nat) → List (Nat × Nat)
  | [] => [current]
  | next :: rest =>
    if next.1 ≤ current.2 + 1 then coalesceFrom (current.1, max current.2 next.2) rest
    else current :: coalesceFrom next rest

/-- Joins the ranges of a list whose starts increase. -/
def coalesce : List (Nat × Nat) → List (Nat × Nat)
  | [] => []
  | first :: rest => coalesceFrom first rest

/-- The ranges of two lists by their starts, which increase in each. -/
def mergeRanges : List (Nat × Nat) → List (Nat × Nat) → List (Nat × Nat)
  | [], t => t
  | r :: s, t =>
    t.takeWhile (fun next => next.1 < r.1) ++
      r :: mergeRanges s (t.dropWhile fun next => next.1 < r.1)

/-- The set covered by ranges in any order. -/
def ofRanges (ranges : List (Nat × Nat)) : CharSet :=
  ⟨coalesce (ranges.foldr (fun r sorted => mergeRanges [r] sorted) [])⟩

/-- Characters of either set. -/
def union (s t : CharSet) : CharSet := ⟨coalesce (mergeRanges s.ranges t.ranges)⟩

/-- Characters of any of the sets. -/
def unions (sets : List CharSet) : CharSet := sets.foldl union empty

/-- The last character in front of the surrogates. -/
def lastBelowSurrogates : Nat := 0xD7FF

/-- The first character behind the surrogates. -/
def firstAboveSurrogates : Nat := 0xE000

/-- The character behind another one. -/
def codeAfter (n : Nat) : Nat := if n = lastBelowSurrogates then firstAboveSurrogates else n + 1

/-- The character before another one. -/
def codeBefore (n : Nat) : Nat := if n = firstAboveSurrogates then lastBelowSurrogates else n - 1

/-- What ranges leave uncovered behind `last`, up to the last character: the gaps between them, each
from the character behind one range to the character before the next. Where only the surrogates lie
between two ranges these have changed places, and the gap is made of both. -/
def gapsBehind (last : Nat) : List (Nat × Nat) → List (Nat × Nat)
  | [] => if last < lastCode then [(codeAfter last, lastCode)] else []
  | (lo, hi) :: rest =>
    (min (codeAfter last) (codeBefore lo), max (codeAfter last) (codeBefore lo)) ::
      gapsBehind hi rest

/-- What a set stands for when it is negated: all that its ranges leave uncovered. -/
def negate (s : CharSet) : CharSet :=
  match s.ranges with
  | [] => all
  | (lo, hi) :: rest =>
    let behind := gapsBehind hi rest
    ⟨if 0 < lo then (0, codeBefore lo) :: behind else behind⟩

/-- What the ranges of two lists have in common. -/
def commonRanges : List (Nat × Nat) → List (Nat × Nat) → List (Nat × Nat)
  | [], _ => []
  | (lo, hi) :: s, t =>
    let t := t.dropWhile fun r => r.2 < lo
    (t.takeWhile fun r => r.1 ≤ hi).map (fun r => (max lo r.1, min hi r.2)) ++ commonRanges s t

/-- What is left of the range from `lo` to `hi` when ranges that meet it are taken away. -/
def cutOut (lo hi : Nat) : List (Nat × Nat) → List (Nat × Nat)
  | [] => [(lo, hi)]
  | r :: rest =>
    let front := if lo < r.1 then [(lo, codeBefore r.1)] else []
    if r.2 < hi then front ++ cutOut (codeAfter r.2) hi rest else front

/-- What is left of the ranges of one list when those of another are taken away. -/
def remainingRanges : List (Nat × Nat) → List (Nat × Nat) → List (Nat × Nat)
  | [], _ => []
  | (lo, hi) :: s, t =>
    let t := t.dropWhile fun r => r.2 < lo
    cutOut lo hi (t.takeWhile fun r => r.1 ≤ hi) ++ remainingRanges s t

/-- Characters of both sets. -/
def inter (s t : CharSet) : CharSet := ⟨commonRanges s.ranges t.ranges⟩

/-- Characters of the first set that are not in the second. -/
def diff (s t : CharSet) : CharSet := ⟨remainingRanges s.ranges t.ranges⟩

/-- Characters of exactly one of the sets. -/
def symmDiff (s t : CharSet) : CharSet := (s.union t).diff (s.inter t)

/-- Whether the set has no range. -/
def isEmpty (s : CharSet) : Bool := s.ranges.isEmpty

/-- The only character of the set, if it has just one. -/
def single? (s : CharSet) : Option Char :=
  match s.ranges with
  | [(lo, hi)] => if lo = hi then some (Char.ofNat lo) else none
  | _ => none

end CharSet

end GrammarScan
