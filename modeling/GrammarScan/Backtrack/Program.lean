import GrammarScan.Expression.Tree
import GrammarScan.Regular.SlotTable

/-!
# Programs with backtracking

Instructions of programs that remember where they could have gone another way. Besides the position
in the text a run has slots, which hold positions for the groups and counters for repetition, and a
stack of marks, which says how many ways back were there when an atomic part began.
-/

namespace GrammarScan.Backtrack

/-- The groups that a plain part sets: `count` of them behind the first `before` ones, read off the
table of slots that plain parts share. -/
structure PlainGroups where
  before : Nat
  count : Nat
  rule : Regular.TableRule
  deriving Inhabited, Repr

/-- An instruction. Loops name the address behind them; a `counter` or a `check` is a slot. -/
inductive Instr where
  | accept
  | anyChar
  | anyButLineFeed
  | assertion (condition : Assertion)
  | literal (text : List Char)
  | fork (first second : Nat)
  | jump (target : Nat)
  | save (slot : Nat)
  | clear (slot : Nat)
  | restore (slot : Nat)
  | count (greedy : Bool) (least : Nat) (most : Option Nat) (leave counter : Nat)
  | loop (greedy : Bool) (least leave counter check : Nat)
  | refute
  | goBack (count : Nat)
  | backReference (group : Nat)
  | groupMatched (group : Nat)
  | beginAtomic
  | endAtomic
  | plain (program : Regular.Program) (groups : Option PlainGroups)
  | searchStart
  deriving Inhabited, Repr

/-- A fork between going on and leaving, in the order that greediness asks for. -/
def Instr.choose (greedy : Bool) (onward leave : Nat) : Instr :=
  if greedy then .fork onward leave else .fork leave onward

/-- A program: its instructions, the number of its slots, and the number of its groups with the
overall match. -/
structure Program where
  code : Array Instr
  slotCount : Nat
  groupCount : Nat
  deriving Inhabited, Repr

end GrammarScan.Backtrack
