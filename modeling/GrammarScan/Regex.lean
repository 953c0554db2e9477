import GrammarScan.Backtrack.Compile
import GrammarScan.Backtrack.Search
import GrammarScan.Expression.Parser
import GrammarScan.RegexEngine

/-!
# The built-in engine

A pattern is compiled to a program and can then be searched for. A pattern that needs no
backtracking is a plain program, whose searches always end with a verdict; any other is a program
with backtracking, whose searches may be given up. A search begins at a boundary of the text and
sees the text before it.
-/

namespace GrammarScan

/-- Bounds on what compiling and searching may cost. The plain parts of a program with backtracking
have a bound of their own. -/
structure Limits where
  backtracks : Nat := 1000000
  programSize : Nat := Automaton.ownSizeLimit
  deriving DecidableEq, Inhabited, Repr

/-- The program of a pattern. -/
inductive Engine where
  | plain (program : Regular.Program)
  | backtracking (program : Backtrack.Program)
  deriving Inhabited, Repr

/-- A compiled pattern. -/
structure Regex where
  engine : Engine
  backtracks : Nat
  deriving Inhabited, Repr

/-- The program of a pattern that was read. References have to be to groups opened before them. -/
def Engine.ofPattern (pattern : ParsedPattern) (limits : Limits) : Except MeaningFault Engine :=
  if (pattern.tree.openedThrough? 0).isNone then .error .invalidReference
  else if pattern.tree.isHard then
    .backtracking <$> Backtrack.Program.ofExpression pattern.tree pattern.groupCount
  else do
    let body ← Regular.ofParts .alternatives 0 [pattern.tree]
    .plain <$> body.compile limits.programSize

/-- The number of groups, the overall match included. -/
def Engine.groupCount : Engine → Nat
  | .plain program => program.groupCount + 1
  | .backtracking program => program.groupCount

/-- The byte range saved for an entry, if both its ends were saved. -/
def entry (text : List Char) (slots : Regular.Slots) (index : Nat) : Option Span :=
  match (slots[2 * index]?).join, (slots[2 * index + 1]?).join with
  | some start, some stop => some (spanOf text start stop)
  | _, _ => none

/-- The first match from a position on, which is counted in characters. -/
def Engine.find (engine : Engine) (text : List Char) (backtracks position : Nat) :
    Outcome Abort :=
  match engine with
  | .plain program =>
    match program.search? text.toArray position with
    | some found =>
      .found ⟨some (spanOf text found.start found.stop) ::
        (List.range (program.groupBound - 1)).map fun i => entry text found.slots (i + 1)⟩
    | none => .absent
  | .backtracking program =>
    match program.search text.toArray backtracks position with
    | .accepted slots => .found ⟨(List.range program.groupCount).map (entry text slots)⟩
    | .failed _ _ => .absent
    | .aborted cause => .aborted cause
    | .reversed => .broken .reversedReference

namespace Regex

/-- Compiles a pattern. -/
def ofText (pattern : List Char) (limits : Limits) : Except ExpressionFault Regex := do
  let parsed ← ParsedPattern.ofText pattern
  match Engine.ofPattern parsed limits with
  | .ok engine => return ⟨engine, limits.backtracks⟩
  | .error fault => throw (.meaning fault)

/-- The number of groups, the overall match included. -/
def groupCount (r : Regex) : Nat := r.engine.groupCount

/-- The first match in a text from a byte offset on. There is none if that is no boundary. -/
def find (r : Regex) (text : List Char) (offset : Nat) : Outcome Abort :=
  match splitAtByte? text offset with
  | some (front, _) => r.engine.find text r.backtracks front.length
  | none => .absent

end Regex

/-- The bounds that limits amount to. The limit on the automaton cache bounds memory alone and has
no influence on answers. -/
def CostLimits.bounds (limits : CostLimits) : Limits :=
  let own : Limits := {}
  ⟨limits.backtrackLimit.getD own.backtracks, limits.programSizeLimit.getD own.programSize⟩

/-- The engine that is used unless another one is named. -/
@[reducible] def RegexEngine.builtIn : RegexEngine where
  Regex := GrammarScan.Regex
  Refusal := ExpressionFault
  Cause := Abort
  compile pattern limits := GrammarScan.Regex.ofText pattern limits.bounds
  groupCount := GrammarScan.Regex.groupCount
  find := GrammarScan.Regex.find
  refusalMessage := ExpressionFault.message
  causeMessage := Abort.message

end GrammarScan
