import GrammarScan.CharSet

/-!
# Plain expressions

The part of a pattern that needs no backtracking: characters, classes, positions, groups,
alternatives and repetition. Expressions are put together in a reduced form. The form matters for
what is matched in two places: a repetition of nothing is made at most once, and alternatives that
begin alike share that beginning, so that the first way through the beginning is kept for all of
them. Beginnings are alike if they are written alike: a set of ASCII characters that was read among
ASCII characters alone is told apart from the same set read among all characters.
-/

namespace GrammarScan

/-- A condition on a position that a plain expression can make. Lines are cut at line feeds, or also
at carriage returns. -/
inductive Place where
  | textStart
  | textEnd
  | lineStart
  | lineEnd
  | returnLineStart
  | returnLineEnd
  deriving BEq, DecidableEq, Inhabited, Repr

/-- A plain expression. A set tells whether it was read among ASCII characters alone. -/
inductive Regular where
  | empty
  | place (condition : Place)
  | literal (text : List Char)
  | set (s : CharSet) (ascii : Bool)
  | group (index : Nat) (body : Regular)
  | iteration (least : Nat) (most : Option Nat) (greedy : Bool) (body : Regular)
  | concat (parts : List Regular)
  | alternation (branches : List Regular)
  deriving BEq, Inhabited, Repr

namespace Regular

/-- The sum of two lengths that may be unknown. -/
def addLengths : Option Nat → Option Nat → Option Nat
  | some m, some n => some (m + n)
  | _, _ => none

mutual

/-- The least number of characters of a match; unknown if some way through cannot match. -/
def minLength : Regular → Option Nat
  | .empty => some 0
  | .place _ => some 0
  | .literal text => some text.length
  | .set s _ => if s.isEmpty then none else some 1
  | .group _ body => minLength body
  | .iteration least _ _ body => (minLength body).map (· * least)
  | .concat parts => minLengthSum parts
  | .alternation branches => minLengthLeast branches

/-- The least length of a sequence. -/
def minLengthSum : List Regular → Option Nat
  | [] => some 0
  | part :: rest => addLengths (minLength part) (minLengthSum rest)

/-- The least length of a choice. -/
def minLengthLeast : List Regular → Option Nat
  | [] => none
  | [branch] => minLength branch
  | branch :: rest =>
    match minLength branch, minLengthLeast rest with
    | some m, some n => some (min m n)
    | _, _ => none

end

mutual

/-- Whether every match is empty and there is a way to match. -/
def matchesOnlyEmpty : Regular → Bool
  | .empty => true
  | .place _ => true
  | .literal text => text.isEmpty
  | .set _ _ => false
  | .group _ body => matchesOnlyEmpty body
  | .iteration _ most _ body => most.isSome && (most = some 0 || matchesOnlyEmpty body)
  | .concat parts => allMatchOnlyEmpty parts
  | .alternation branches => !branches.isEmpty && allMatchOnlyEmpty branches

/-- Whether every expression of a list matches nothing but the empty text. -/
def allMatchOnlyEmpty : List Regular → Bool
  | [] => true
  | r :: rest => matchesOnlyEmpty r && allMatchOnlyEmpty rest

end

/-- Whether every match takes up a character. -/
def alwaysConsumes (r : Regular) : Bool := (minLength r).any (0 < ·)

/-- One character out of a set, which was read among ASCII characters alone or among all. -/
def ofSet (s : CharSet) (ascii : Bool) : Regular :=
  match s.single? with
  | some c => .literal [c]
  | none => .set s (ascii && !s.isEmpty)

/-- Puts a part in front of a reduced sequence, joining literals and leaving out the empty
expression. -/
def consPart (part : Regular) (rest : List Regular) : List Regular :=
  match part, rest with
  | .empty, rest => rest
  | .literal s, .literal t :: rest => .literal (s ++ t) :: rest
  | part, rest => part :: rest

/-- The parts of a sequence, with inner sequences opened. -/
def flattenParts : List Regular → List Regular
  | [] => []
  | .concat parts :: rest => parts.foldr consPart (flattenParts rest)
  | part :: rest => consPart part (flattenParts rest)

/-- A sequence. -/
def seq (parts : List Regular) : Regular :=
  match flattenParts parts with
  | [] => .empty
  | [part] => part
  | parts => .concat parts

/-- The branches of a choice, with inner choices opened. -/
def flattenBranches : List Regular → List Regular
  | [] => []
  | .alternation branches :: rest => branches ++ flattenBranches rest
  | branch :: rest => branch :: flattenBranches rest

/-- The set of an expression that is one character out of a set. -/
def charSet? : Regular → Option CharSet
  | .set s _ => some s
  | .literal [c] => some (.single c)
  | _ => none

/-- The set of a choice between characters, if every branch is a single character or every branch
is a proper set. -/
def branchesSet? (branches : List Regular) : Option CharSet :=
  let isLiteral : Regular → Bool
    | .literal _ => true
    | _ => false
  if branches.all isLiteral || branches.all (!isLiteral ·) then
    (branches.mapM charSet?).map CharSet.unions
  else none

/-- The longest common beginning of two lists. -/
def commonPrefix : List Regular → List Regular → List Regular
  | a :: as, b :: bs => if a == b then a :: commonPrefix as bs else []
  | _, _ => []

/-- The parts of a sequence. -/
def parts? : Regular → Option (List Regular)
  | .concat parts => some parts
  | _ => none

/-- Sequences that begin alike: the common beginning and what is left of each. -/
def sharedBeginning? (branches : List Regular) : Option (List Regular × List (List Regular)) := do
  let first :: rest ← branches.mapM parts? | none
  let shared := rest.foldl commonPrefix first
  if shared.isEmpty then none
  else return (shared, (first :: rest).map (·.drop shared.length))

/-- A choice. `fuel` bounds how often a shared beginning is set apart; sequences only get shorter
by it. -/
def choiceWith : (fuel : Nat) → List Regular → Regular
  | 0, branches => .alternation branches
  | fuel + 1, branches =>
    match flattenBranches branches with
    | [] => .set .empty false
    | [branch] => branch
    | branches =>
      match branchesSet? branches with
      | some s => .ofSet s false
      | none =>
        match sharedBeginning? branches with
        | some (shared, rests) => seq (shared ++ [choiceWith fuel (rests.map seq)])
        | none => .alternation branches

/-- The number of parts of a sequence. -/
def partCount : Regular → Nat
  | .concat parts => parts.length
  | _ => 1

/-- A choice. -/
def choice (branches : List Regular) : Regular :=
  choiceWith ((branches.map partCount).foldl (· + ·) 1) branches

/-- A repetition. What only matches the empty text is repeated at most once. -/
def times (least : Nat) (most : Option Nat) (greedy : Bool) (body : Regular) : Regular :=
  let (least, most) :=
    if matchesOnlyEmpty body then (min least 1, some ((most.map (min · 1)).getD 1))
    else (least, most)
  if least = 0 && most = some 0 then .empty
  else if least = 1 && most = some 1 then body
  else .iteration least most greedy body

mutual

/-- One more than the greatest number of a group. -/
def groupBound : Regular → Nat
  | .group index body => max (index + 1) (groupBound body)
  | .iteration _ _ _ body => groupBound body
  | .concat parts => groupBoundList parts
  | .alternation branches => groupBoundList branches
  | .empty | .place _ | .literal _ | .set _ _ => 0

/-- One more than the greatest number of a group in a list. -/
def groupBoundList : List Regular → Nat
  | [] => 0
  | r :: rest => max (groupBound r) (groupBoundList rest)

end

mutual

/-- The number of groups. -/
def groupCount : Regular → Nat
  | .group _ body => groupCount body + 1
  | .iteration _ _ _ body => groupCount body
  | .concat parts => groupCountSum parts
  | .alternation branches => groupCountSum branches
  | .empty | .place _ | .literal _ | .set _ _ => 0

/-- The number of groups in a list. -/
def groupCountSum : List Regular → Nat
  | [] => 0
  | r :: rest => groupCount r + groupCountSum rest

end

end Regular

end GrammarScan
