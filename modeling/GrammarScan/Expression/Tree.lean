/-!
# Expressions

The tree of a pattern as the matching engine understands it. Groups carry the number under which
they capture; numbers are given in the order of the opening parentheses, from 1 on.
-/

namespace GrammarScan

/-- A condition on a position of the text that takes up no character. -/
inductive Assertion where
  | textStart
  | textEnd
  | lineStart
  | lineEnd
  | wordBoundary
  | notWordBoundary
  | wordStart
  | wordEnd
  deriving BEq, DecidableEq, Inhabited, Repr

/-- Whether the condition asks for the words beside the position. -/
def Assertion.isAboutWords : Assertion → Bool
  | .wordBoundary | .notWordBoundary | .wordStart | .wordEnd => true
  | .textStart | .textEnd | .lineStart | .lineEnd => false

/-- The side of the position on which a look-around has its body. -/
inductive Side where
  | ahead
  | behind
  deriving BEq, DecidableEq, Inhabited, Repr

/-- A pattern as a tree. -/
inductive Expression where
  | empty
  | anyChar (lineFeed : Bool)
  | assertion (condition : Assertion)
  | literal (c : Char) (ignoreCase : Bool)
  | charClass (text : List Char) (ignoreCase : Bool)
  | concat (parts : List Expression)
  | alternation (branches : List Expression)
  | group (index : Nat) (body : Expression)
  | lookAround (side : Side) (negated : Bool) (body : Expression)
  | iteration (least : Nat) (most : Option Nat) (greedy : Bool) (body : Expression)
  | backReference (group : Nat)
  | atomic (body : Expression)
  | keepOut
  | searchStart
  | groupMatched (group : Nat)
  | conditional (test yes no : Expression)
  deriving Inhabited, Repr

namespace Expression

/-- Whether the tree is the empty pattern itself. -/
def isEmpty : Expression → Bool
  | .empty => true
  | _ => false

/-- The concatenation of parts, which is a part itself if it has just one. -/
def ofParts : List Expression → Expression
  | [] => .empty
  | [part] => part
  | parts => .concat parts

/-- Whether a quantifier may follow: not after a look-around, an assertion or nothing. -/
def isRepeatable : Expression → Bool
  | .empty | .assertion _ | .lookAround _ _ _ => false
  | _ => true

end Expression

end GrammarScan
