import GrammarScan.Expression.Tree

/-!
# Writing plain parts

Plain parts of a pattern in plain notation. Wherever a tree binds less tightly than its place asks
for it is put into a group that does not capture. Case is ignored by a group of its own for each
character and class. What look-around and the like are written as never matters, since no plain part
holds them.
-/

namespace GrammarScan

/-- How tightly a place asks a tree to bind: as alternatives, as a branch of them, as a part of a
sequence, or as the body of a repetition. -/
inductive Binding where
  | alternatives
  | branch
  | part
  | body
  deriving DecidableEq, Inhabited, Repr

/-- The place of a binding among all, the loosest first. -/
def Binding.rank : Binding → Nat
  | .alternatives => 0
  | .branch => 1
  | .part => 2
  | .body => 3

namespace Expression

/-- The characters that are written with a backslash. -/
def quotedCharacters : List Char :=
  ['\\', '.', '+', '*', '?', '(', ')', '|', '[', ']', '\x7b', '\x7d', '^', '$', '#']

/-- A group that does not capture, with the given flags. -/
def flagGroup (flags : String) (body : List Char) : List Char :=
  ['(', '?'] ++ flags.toList ++ [':'] ++ body ++ [')']

/-- A text in a group if that is needed. -/
def groupedIf (needed : Bool) (body : List Char) : List Char :=
  if needed then flagGroup "" body else body

/-- A text under the flag for ignoring case. -/
def caseIgnoredIf (ignoreCase : Bool) (body : List Char) : List Char :=
  if ignoreCase then flagGroup "i" body else body

/-- A condition on a position. -/
def writeAssertion : Assertion → List Char
  | .textStart => ['^']
  | .textEnd => ['$']
  | .lineStart => flagGroup "m" ['^']
  | .lineEnd => flagGroup "m" ['$']
  | .wordBoundary | .notWordBoundary | .wordStart | .wordEnd => []

/-- The bounds of a quantifier. -/
def writeBounds (least : Nat) (most : Option Nat) : List Char :=
  match least, most with
  | 0, some 1 => ['?']
  | 0, none => ['*']
  | 1, none => ['+']
  | least, none => ['\x7b'] ++ (toString least).toList ++ [',', '\x7d']
  | least, some most =>
    let upper := if least = most then [] else ',' :: (toString most).toList
    ['\x7b'] ++ (toString least).toList ++ upper ++ ['\x7d']

/-- Texts with a bar between any two of them. -/
def joinBranches : List (List Char) → List Char
  | [] => []
  | [branch] => branch
  | branch :: rest => branch ++ '|' :: joinBranches rest

mutual

/-- A plain tree as text for a place with the given binding. -/
def write (binding : Binding) : Expression → List Char
  | .anyChar true => flagGroup "s" ['.']
  | .anyChar false => ['.']
  | .assertion condition => writeAssertion condition
  | .literal c ignoreCase =>
    caseIgnoredIf ignoreCase (if quotedCharacters.contains c then ['\\', c] else [c])
  | .charClass text ignoreCase => caseIgnoredIf ignoreCase text
  | .concat parts => groupedIf (1 < binding.rank) (writeAll .part parts).flatten
  | .alternation branches => groupedIf (0 < binding.rank) (joinBranches (writeAll .branch branches))
  | .group _ body => ['('] ++ write .alternatives body ++ [')']
  | .iteration least most greedy body =>
    groupedIf (2 < binding.rank)
      (write .body body ++ writeBounds least most ++ if greedy then [] else ['?'])
  | .empty | .lookAround _ _ _ | .backReference _ | .atomic _ | .keepOut | .searchStart
  | .groupMatched _ | .conditional _ _ _ => []

/-- Trees as texts for places with the given binding. -/
def writeAll (binding : Binding) : List Expression → List (List Char)
  | [] => []
  | e :: rest => write binding e :: writeAll binding rest

end

end Expression

end GrammarScan
