import GrammarScan.Expression.Tree

/-!
# Shapes of expressions

What can be told about a tree without running it: the least length of what it matches, whether that
length is fixed, whether it needs backtracking, and whether its references are to groups that were
opened before. Lengths are counted in characters and, like all offsets, in machine words; a
repetition without an upper bound counts as one that is bounded by the greatest word.
-/

namespace GrammarScan.Expression

/-- A length as a machine word. -/
def word (n : Nat) : Nat := n % UInt64.size

mutual

/-- The least number of characters that a match takes up. -/
def minLength : Expression → Nat
  | .anyChar _ | .literal _ _ | .charClass _ _ => 1
  | .concat parts => minLengthSum parts
  | .alternation branches => minLengthLeast branches
  | .group _ body => minLength body
  | .iteration least _ _ body => word (minLength body * least)
  | .atomic body => minLength body
  | .conditional test yes no => word (minLength test + min (minLength yes) (minLength no))
  | .empty | .assertion _ | .lookAround _ _ _ | .backReference _ | .keepOut | .searchStart
  | .groupMatched _ => 0

/-- The least length of a sequence. -/
def minLengthSum : List Expression → Nat
  | [] => 0
  | e :: rest => word (minLength e + minLengthSum rest)

/-- The least length of a choice. -/
def minLengthLeast : List Expression → Nat
  | [] => 0
  | [e] => minLength e
  | e :: rest => min (minLength e) (minLengthLeast rest)

end

mutual

/-- Whether all matches have the same length. A reference may stand for texts of any length. -/
def hasFixedLength : Expression → Bool
  | .concat parts => allFixed parts
  | .alternation branches =>
    allFixed branches && branches.all fun b => minLength b = minLengthLeast branches
  | .group _ body => hasFixedLength body
  | .iteration least most _ body => hasFixedLength body && least = most.getD (UInt64.size - 1)
  | .atomic body => hasFixedLength body
  | .conditional test yes no =>
    hasFixedLength test && hasFixedLength yes && hasFixedLength no &&
      word (minLength test + minLength yes) = minLength no
  | .backReference _ => false
  | .empty | .anyChar _ | .assertion _ | .literal _ _ | .charClass _ _ | .lookAround _ _ _
  | .keepOut | .searchStart | .groupMatched _ => true

/-- Whether all expressions of a list have a fixed length. -/
def allFixed : List Expression → Bool
  | [] => true
  | e :: rest => hasFixedLength e && allFixed rest

end

mutual

/-- Whether backtracking is needed. A group needs no more of it for being referred to: what a plain
part captured stands, and no other way through that part is tried. -/
def isHard : Expression → Bool
  | .assertion condition => condition.isAboutWords
  | .concat parts => anyHard parts
  | .alternation branches => anyHard branches
  | .group _ body => isHard body
  | .iteration _ _ _ body => isHard body
  | .lookAround _ _ _ | .backReference _ | .atomic _ | .keepOut | .searchStart | .groupMatched _
  | .conditional _ _ _ => true
  | .empty | .anyChar _ | .literal _ _ | .charClass _ _ => false

/-- Whether an expression of a list needs backtracking. -/
def anyHard : List Expression → Bool
  | [] => false
  | e :: rest => isHard e || anyHard rest

end

mutual

/-- The number of groups opened up to the end of a tree, given the number opened before it; nothing
if the tree refers to a group that is not yet opened. -/
def openedThrough? : Expression → (opened : Nat) → Option Nat
  | .backReference index, opened | .groupMatched index, opened =>
    if index ≤ opened then some opened else none
  | .group _ body, opened => openedThrough? body (opened + 1)
  | .concat parts, opened => openedThroughAll? parts opened
  | .alternation branches, opened => openedThroughAll? branches opened
  | .lookAround _ _ body, opened => openedThrough? body opened
  | .iteration _ _ _ body, opened => openedThrough? body opened
  | .atomic body, opened => openedThrough? body opened
  | .conditional test yes no, opened => do
    let opened ← openedThrough? test opened
    let opened ← openedThrough? yes opened
    openedThrough? no opened
  | .empty, opened | .anyChar _, opened | .assertion _, opened | .literal _ _, opened
  | .charClass _ _, opened | .keepOut, opened | .searchStart, opened => some opened

/-- The number of groups opened up to the end of a list. -/
def openedThroughAll? : List Expression → (opened : Nat) → Option Nat
  | [], opened => some opened
  | e :: rest, opened => do
    let opened ← openedThrough? e opened
    openedThroughAll? rest opened

end

mutual

/-- The numbers of the groups of a tree, in the order of their parentheses. -/
def groups : Expression → List Nat
  | .group index body => index :: groups body
  | .concat parts => groupsOf parts
  | .alternation branches => groupsOf branches
  | .lookAround _ _ body => groups body
  | .iteration _ _ _ body => groups body
  | .atomic body => groups body
  | .conditional test yes no => groups test ++ groups yes ++ groups no
  | .empty | .anyChar _ | .assertion _ | .literal _ _ | .charClass _ _ | .backReference _
  | .keepOut | .searchStart | .groupMatched _ => []

/-- The numbers of the groups of a list of trees. -/
def groupsOf : List Expression → List Nat
  | [] => []
  | e :: rest => groups e ++ groupsOf rest

end

mutual

/-- The text of a tree that is nothing but characters in their own case. -/
def plainText? : Expression → Option (List Char)
  | .literal c false => some [c]
  | .concat parts => plainTextOf? parts
  | _ => none

/-- The text of a list of trees that are nothing but characters in their own case. -/
def plainTextOf? : List Expression → Option (List Char)
  | [] => some []
  | e :: rest =>
    match plainText? e, plainTextOf? rest with
    | some s, some t => some (s ++ t)
    | _, _ => none

end

end GrammarScan.Expression
