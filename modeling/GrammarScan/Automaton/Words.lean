import GrammarScan.Automaton.Basic

/-!
# Words as automata

A choice between words is laid out as a tree of their bytes, so that words share their beginnings. A
word is preferred to those listed behind it. Where a word ends inside of the tree, what was known
there before it ended is therefore kept apart from what comes to be known later: the branches of a
node are several lists, with the end of a word between any two of them.
-/

namespace GrammarScan

/-- A tree of words: the branches on bytes in the order of the bytes, in lists that are closed by
ends of words, the latest first, and in one list that is still open. -/
inductive WordTree where
  | node (closed : List (List (Nat × WordTree))) (opened : List (Nat × WordTree))
  deriving Inhabited

namespace WordTree

/-- The tree of no word. -/
def empty : WordTree := .node [] []

/-- A word ends here. Where one has ended before and nothing branches off, nothing changes. -/
def endWord : WordTree → WordTree
  | .node closed opened =>
    if !closed.isEmpty && opened.isEmpty && closed.all List.isEmpty then .node closed opened
    else .node (opened :: closed) []

/-- The tree with one more word. -/
def insert : List Nat → WordTree → WordTree
  | [], t => t.endWord
  | b :: word, .node closed opened =>
    let before := opened.takeWhile fun branch => branch.1 < b
    let after := opened.dropWhile fun branch => branch.1 < b
    match after with
    | (b', t) :: rest =>
      if b = b' then .node closed (before ++ (b, t.insert word) :: rest)
      else .node closed (before ++ (b, empty.insert word) :: after)
    | [] => .node closed (before ++ [(b, empty.insert word)])

/-- Whether nothing branches off. -/
def isLeaf : WordTree → Bool
  | .node closed opened => closed.all List.isEmpty && opened.isEmpty

/-- The state for the branches of a list; a single one is no branching. -/
def addSteps (steps : List ByteStep) : Drawing (List Nat) :=
  match steps with
  | [] => return []
  | [move] => return [← Drawing.add (.single move)]
  | steps => return [← Drawing.add (.branch steps)]

mutual

/-- Adds the states of a tree whose words end at `stop`, and gives the state where it is entered. -/
def draw (stop : Nat) : WordTree → Drawing Nat
  | .node closed opened => do
    let before ← drawClosed stop closed
    let last ← addSteps (← drawSteps stop opened)
    Drawing.add (.ways false (last ++ before))

/-- The ways of the lists that are closed, the latest first: to the branches of each list, and
behind them to the end of a word. -/
def drawClosed (stop : Nat) : List (List (Nat × WordTree)) → Drawing (List Nat)
  | [] => return []
  | branches :: earlier => do
    let before ← drawClosed stop earlier
    let here ← addSteps (← drawSteps stop branches)
    return stop :: here ++ before

/-- The steps of a list of branches. -/
def drawSteps (stop : Nat) : List (Nat × WordTree) → Drawing (List ByteStep)
  | [] => return []
  | (b, t) :: rest => do
    let next ← if t.isLeaf then pure stop else draw stop t
    let rest ← drawSteps stop rest
    return ⟨b, b, next⟩ :: rest

end

/-- Adds the states for a choice between words. -/
def drawWords (words : List (List Nat)) : Drawing Section := do
  let stop ← Drawing.add (.pass 0)
  let start ← draw stop (words.foldl (fun t word => t.insert word) empty)
  return ⟨start, stop⟩

end WordTree

end GrammarScan
