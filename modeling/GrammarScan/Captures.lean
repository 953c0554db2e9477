import GrammarScan.Text.Buffer

/-!
# Captures

What one search found: the range of the overall match, then the range of each group, or nothing
for a group that took no part. Ranges are in bytes.
-/

namespace GrammarScan

/-- The ranges of one match, the overall match first. -/
structure Captures where
  groups : List (Option Span)
  deriving DecidableEq, Inhabited, Repr

namespace Captures

/-- Captures with given ranges; the overall match has to be there, and no range may be reversed. -/
def ofRanges (groups : List (Option Span)) : Except Fault Captures :=
  match groups with
  | some _ :: _ =>
    if groups.all fun g => g.all fun r => r.start ≤ r.stop then .ok ⟨groups⟩
    else .error .reversedRange
  | _ => .error .noOverallMatch

/-- The number of entries, the overall match included. -/
def size (c : Captures) : Nat := c.groups.length

/-- The range of an entry that took part. -/
def get? (c : Captures) (index : Nat) : Option Span := (c.groups[index]?).join

/-- An entry that took part stands among the groups. -/
theorem get?_eq_some_iff {c : Captures} {index : Nat} {range : Span} :
    c.get? index = some range ↔ c.groups[index]? = some (some range) :=
  Option.join_eq_some_iff

/-- The range of the overall match. -/
def range (c : Captures) : Span := (c.get? 0).getD ⟨0, 0⟩

/-- Where the overall match starts. -/
def start (c : Captures) : Nat := c.range.start

/-- Where the overall match ends. -/
def stop (c : Captures) : Nat := c.range.stop

/-- The text of an entry that took part, if its range fits the buffer. -/
def text? (c : Captures) (index : Nat) (buffer : Buffer) : Option (List Char) :=
  (c.get? index).bind (slice? buffer.text)

/-- One range in the code units of a buffer, the start first. -/
def spanUnits (buffer : Buffer) (r : Span) : Except Fault Span := do
  let start ← buffer.unitOffset r.start
  let stop ← buffer.unitOffset r.stop
  return ⟨start, stop⟩

/-- Every entry in the code units of a buffer. -/
def toCodeUnits (c : Captures) (buffer : Buffer) : Except Fault (List (Option Span)) :=
  c.groups.mapM fun
    | some r => some <$> spanUnits buffer r
    | none => .ok none

end Captures

end GrammarScan
