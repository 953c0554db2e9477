import GrammarScan.Automaton.OnePass
import GrammarScan.Regular.Search
import GrammarScan.Regular.Words

/-!
# Tables of slots

Plain parts of a program with backtracking share one table of slots, which lives as long as the
search. The groups of a part are read off the table behind a match of the part, so what an earlier
run left there can show: a part that is words knows of no groups and leaves their slots alone,
and a part without a match clears the table only if it saves slots while it reads.
-/

namespace GrammarScan

namespace Regular

/-- The number of bytes of the matches of an expression: the least number, unknown if some way
through cannot match, and the greatest, unknown if there is none. -/
structure Extent where
  least : Option Nat
  greatest : Option Nat
  deriving DecidableEq, Inhabited, Repr

namespace Extent

/-- The extent of one after the other. -/
def append (a b : Extent) : Extent :=
  ⟨addLengths a.least b.least, addLengths a.greatest b.greatest⟩

/-- The extent of the one or the other. -/
def either (a b : Extent) : Extent where
  least := do return min (← a.least) (← b.least)
  greatest := do return max (← a.greatest) (← b.greatest)

/-- The extent of a repetition. -/
def times (least : Nat) (most : Option Nat) (a : Extent) : Extent where
  least := a.least.map (· * least)
  greatest := do return (← most) * (← a.greatest)

end Extent

/-- The number of bytes that a code point takes up. -/
def codeLength (n : Nat) : Nat := if n < 0x80 then 1 else if n < 0x800 then 2 else
  if n < 0x10000 then 3 else 4

mutual

/-- The extent of an expression. -/
def extent : Regular → Extent
  | .empty | .place _ => ⟨some 0, some 0⟩
  | .literal text => ⟨some (byteLength text), some (byteLength text)⟩
  | .set s _ =>
    ⟨s.ranges.head?.map (codeLength ·.1), s.ranges.getLast?.map (codeLength ·.2)⟩
  | .group _ body => extent body
  | .iteration least most _ body => .times least most (extent body)
  | .concat parts => extentOfSequence parts
  | .alternation branches => extentOfChoice branches

/-- The extent of a sequence. -/
def extentOfSequence : List Regular → Extent
  | [] => ⟨some 0, some 0⟩
  | part :: rest => (extent part).append (extentOfSequence rest)

/-- The extent of a choice. -/
def extentOfChoice : List Regular → Extent
  | [] => ⟨none, none⟩
  | [branch] => extent branch
  | branch :: rest => (extent branch).either (extentOfChoice rest)

end

/-- What a part does to a table, and what tells beforehand that there is no match. -/
structure TableRule where
  isWords : Bool
  savesWhileReading : Bool
  startsText : Bool
  endsText : Bool
  extent : Extent
  deriving Inhabited, Repr

namespace TableRule

/-- The rule for an expression. -/
def ofRegular (r : Regular) : TableRule where
  isWords := r.isWords
  savesWhileReading := Automaton.isOnePass Automaton.ownSizeLimit r
  startsText := r.beginsAtStart
  endsText := r.endsAtEnd
  extent := r.extent

/-- Whether there cannot be a match at a position. -/
def excludes (rule : TableRule) (text : Array Char) (position : Nat) : Bool :=
  let remaining := byteLength (text.extract position text.size).toList
  rule.startsText && 0 < position || rule.extent.least.any (remaining < ·) ||
    rule.endsText && rule.extent.greatest.any (· < remaining)

/-- The table behind a match. -/
def afterMatch (rule : TableRule) (found : Match) (table : Slots) : Slots :=
  let cleared :=
    if rule.isWords then table
    else (Array.range table.size).map fun i => (found.slots[i]?).join
  (cleared.setIfInBounds 0 (some found.start)).setIfInBounds 1 (some found.stop)

/-- The table behind a run without a match. -/
def afterMiss (rule : TableRule) (text : Array Char) (start : Nat) (table : Slots) : Slots :=
  if rule.savesWhileReading && !rule.excludes text start then .replicate table.size none else table

end TableRule

end Regular

end GrammarScan
