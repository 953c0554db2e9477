import GrammarScan.Automaton.OfRegular
import GrammarScan.Expression.Fault
import GrammarScan.Regular.Program
import GrammarScan.Regular.Words

/-!
# The size of plain expressions

A plain expression is accepted if its automata in both directions keep to a bound on their size, or
if it is words, which need no automaton. The automata are only drawn where a rough estimate
from the tree does not already tell that they are small.
-/

namespace GrammarScan.Regular

/-- No less than the size of a set. A range has a few byte sequences of up to four bytes; ranges
whose ends have forms of different lengths have more, but there are only three of them. -/
def setEstimate (s : CharSet) : Nat := 10000 + 1500 * s.ranges.length

/-- No less than the size of a repetition whose body has a size up to the given one. -/
def timesEstimate (least : Nat) (most : Option Nat) (body : Nat) : Nat :=
  match most with
  | none => (least + 1) * body + 128
  | some most => least * body + 64 + (most - least) * (body + 40)

mutual

/-- No less than the size of an expression in either direction. -/
def sizeEstimate : Regular → Nat
  | .empty | .place _ => 32
  | .literal text => 32 * byteLength text
  | .set s _ => setEstimate s
  | .group _ body => 64 + sizeEstimate body
  | .iteration least most _ body => timesEstimate least most (sizeEstimate body)
  | .concat parts => sizeEstimateSum parts
  | .alternation branches => 64 + sizeEstimateChoice branches

/-- The sum of the estimates of a list. -/
def sizeEstimateSum : List Regular → Nat
  | [] => 0
  | r :: rest => sizeEstimate r + sizeEstimateSum rest

/-- The sum of the estimates of the branches of a choice. Words may be laid out as a tree, with more
than one state for each of their bytes. -/
def sizeEstimateChoice : List Regular → Nat
  | [] => 0
  | .literal text :: rest => 80 + 80 * byteLength text + sizeEstimateChoice rest
  | r :: rest => 80 + sizeEstimate r + sizeEstimateChoice rest

end

/-- Whether the automata of an expression are within a bound on their size. -/
def fits (r : Regular) (sizeLimit : Nat) : Bool :=
  208 + sizeEstimate r ≤ sizeLimit || r.isWords ||
    (Automaton.ofRegular? true sizeLimit r).isSome &&
      (Automaton.ofRegular? false sizeLimit r).isSome

/-- The program of an expression that is within a bound on its size. -/
def compile (r : Regular) (sizeLimit : Nat) : Except MeaningFault Program :=
  if r.fits sizeLimit then .ok (.ofRegular r) else .error .oversizedPart

end GrammarScan.Regular
