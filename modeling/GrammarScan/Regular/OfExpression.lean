import GrammarScan.Expression.Fault
import GrammarScan.Expression.Written
import GrammarScan.Regular.Notation

/-!
# Plain parts of a pattern

A tree without look-around, references and the like is a plain expression. It is refused if a class
of it cannot be read, if a quantifier of it has its bounds the wrong way round or out of range, or
if it nests too deeply.

In plain notation a class may end before or behind the place where the tree has its end, and then
what stands around it means something else. If all classes of a part are read to their ends the
tree itself is the plain expression; otherwise the part is written out and read as plain notation.
-/

namespace GrammarScan

/-- The condition of a plain assertion. -/
def Assertion.place? : Assertion → Option Place
  | .textStart => some .textStart
  | .textEnd => some .textEnd
  | .lineStart => some .lineStart
  | .lineEnd => some .lineEnd
  | .wordBoundary | .notWordBoundary | .wordStart | .wordEnd => none

/-- How written notation nests: the number of its items and the greatest depth of one. -/
structure Nesting where
  items : Nat
  depth : Nat
  deriving DecidableEq, Inhabited, Repr

namespace Nesting

/-- The depth of the items as one sequence. -/
def total (n : Nesting) : Nat := if 1 < n.items then n.depth + 1 else n.depth

/-- One level above items. -/
def around (n : Nesting) : Nesting := ⟨1, n.total + 1⟩

/-- A group around items if that is needed. -/
def groupedIf (needed : Bool) (n : Nesting) : Nesting := if needed then n.around else n

end Nesting

namespace Expression

mutual

/-- Whether every class of a tree is read to its end. -/
def classesStandAlone : Expression → Bool
  | .charClass text _ => (Regular.ClassSet.ofText? {} text).any (·.2.isEmpty)
  | .concat parts => allClassesStandAlone parts
  | .alternation branches => allClassesStandAlone branches
  | .group _ body => classesStandAlone body
  | .iteration _ _ _ body => classesStandAlone body
  | .empty | .anyChar _ | .assertion _ | .literal _ _ | .lookAround _ _ _ | .backReference _
  | .atomic _ | .keepOut | .searchStart | .groupMatched _ | .conditional _ _ _ => true

/-- Whether every class of a list of trees is read to its end. -/
def allClassesStandAlone : List Expression → Bool
  | [] => true
  | e :: rest => classesStandAlone e && allClassesStandAlone rest

end

mutual

/-- How a plain tree nests as it is written for a place with the given binding. -/
def nesting (binding : Binding) : Expression → Nesting
  | .anyChar lineFeed => ⟨1, if lineFeed then 1 else 0⟩
  | .assertion condition =>
    ⟨1, if condition = .lineStart || condition = .lineEnd then 1 else 0⟩
  | .literal _ ignoreCase => ⟨1, if ignoreCase then 1 else 0⟩
  | .charClass text ignoreCase =>
    let depth := ((Regular.ClassSet.ofText? {} text).map (·.1.depth)).getD 0
    ⟨1, if ignoreCase then depth + 1 else depth⟩
  | .concat parts => (nestingSequence parts).groupedIf (1 < binding.rank)
  | .alternation branches =>
    let choice : Nesting := ⟨1, nestingBranches branches + 1⟩
    choice.groupedIf (0 < binding.rank)
  | .group _ body => (nesting .alternatives body).around
  | .iteration _ _ _ body => (nesting .body body).around.groupedIf (2 < binding.rank)
  | .empty | .lookAround _ _ _ | .backReference _ | .atomic _ | .keepOut | .searchStart
  | .groupMatched _ | .conditional _ _ _ => ⟨0, 0⟩

/-- How the parts of a sequence nest. -/
def nestingSequence : List Expression → Nesting
  | [] => ⟨0, 0⟩
  | e :: rest =>
    let first := nesting .part e
    let rest := nestingSequence rest
    ⟨first.items + rest.items, max first.depth rest.depth⟩

/-- The greatest depth of a branch. -/
def nestingBranches : List Expression → Nat
  | [] => 0
  | e :: rest => max (nesting .branch e).total (nestingBranches rest)

end

end Expression

namespace Regular

mutual

/-- The plain expression of a tree whose classes are read to their ends. Groups are numbered from
behind the first `before` ones. -/
def ofExpression (before : Nat) : Expression → Except MeaningFault Regular
  | .empty => .ok .empty
  | .anyChar lineFeed => .ok (.ofSet (Mode.anyChar { dotAll := lineFeed }) false)
  | .assertion condition =>
    match condition.place? with
    | some condition => .ok (.place condition)
    | none => .error .refusedPart
  | .literal c ignoreCase => .ok (ofChar { ignoreCase } c)
  | .charClass text ignoreCase =>
    match ClassSet.ofText? { ignoreCase } text with
    | some (s, _) => .ok (.ofSet s.set false)
    | none => .error .refusedPart
  | .concat parts => seq <$> ofExpressions before parts
  | .alternation branches => choice <$> ofExpressions before branches
  | .group index body => .group (index - before) <$> ofExpression before body
  | .iteration least most greedy body => do
    let body ← ofExpression before body
    if boundsInOrder least most then .ok (times least most greedy body) else .error .refusedPart
  | .lookAround _ _ _ | .backReference _ | .atomic _ | .keepOut | .searchStart | .groupMatched _
  | .conditional _ _ _ => .error .refusedPart

/-- The plain expressions of a list of trees. -/
def ofExpressions (before : Nat) : List Expression → Except MeaningFault (List Regular)
  | [] => .ok []
  | e :: rest => do
    let first ← ofExpression before e
    let rest ← ofExpressions before rest
    return first :: rest

end

/-- The plain expression of trees of a pattern, one after another, each of them written for a place
with the given binding. -/
def ofParts (binding : Binding) (before : Nat) (parts : List Expression) :
    Except MeaningFault Regular :=
  if Expression.allClassesStandAlone parts then do
    let bodies ← ofExpressions before parts
    let nestings := parts.map (Expression.nesting binding)
    let items := (nestings.map Nesting.items).foldl (· + ·) 0
    let depth := (nestings.map Nesting.depth).foldl max 0
    if (Nesting.mk items depth).total ≤ depthLimit then return seq bodies
    else throw .refusedPart
  else
    match Notation.parse? (Expression.writeAll binding parts).flatten with
    | some body => .ok body
    | none => .error .refusedPart

end Regular

end GrammarScan
