import GrammarScan.Abort
import GrammarScan.Backtrack.Program
import GrammarScan.Backtrack.Trail
import GrammarScan.Unicode.Word

/-!
# Running programs with backtracking

A run takes one step after another until an instruction fails; then it takes up the latest branch
of its trail, as long as there is one and the search may still go back. An attempt is the run from
one start; a search makes an attempt at one position after another. Going on to the next position
counts as going back, and takes up one place on the trail.
-/

namespace GrammarScan

/-- Whether there is a word character before a position. -/
def wordBefore (text : Array Char) (position : Nat) : Bool :=
  0 < position && text[position - 1]?.any Unicode.isWord

/-- Whether there is a word character behind a position. -/
def wordBehind (text : Array Char) (position : Nat) : Bool := text[position]?.any Unicode.isWord

/-- Whether an assertion holds at a position. -/
def Assertion.holds (text : Array Char) (position : Nat) : Assertion → Bool
  | .textStart => Place.textStart.holds text position
  | .textEnd => Place.textEnd.holds text position
  | .lineStart => Place.lineStart.holds text position
  | .lineEnd => Place.lineEnd.holds text position
  | .wordBoundary => wordBefore text position != wordBehind text position
  | .notWordBoundary => wordBefore text position == wordBehind text position
  | .wordStart => !wordBefore text position && wordBehind text position
  | .wordEnd => wordBefore text position && !wordBehind text position

namespace Backtrack

open Regular (Slots)

/-- What a run holds: the instruction and the position it has come to, its slots, its marks, its
trail, and the table of slots that its plain parts share. Going back does not change the table. -/
structure State where
  address : Nat
  position : Nat
  slots : Slots
  marks : List Nat
  trail : Trail
  table : Slots

/-- How many branches an attempt may store at a time. -/
def branchLimit : Nat := 999999

/-- What an instruction makes of a run. -/
inductive Step where
  | onward (s : State)
  | stuck (s : State)
  | accepted (slots : Slots)
  | overfull
  | reversed

namespace State

/-- The value of a slot. -/
def slot? (s : State) (slot : Nat) : Option Nat := (s.slots[slot]?).join

/-- The run with a slot set. -/
def set (s : State) (slot value : Nat) : State :=
  { s with slots := s.slots.setIfInBounds slot (some value) }

/-- Goes on with the next instruction. -/
def next (s : State) : Step := .onward { s with address := s.address + 1 }

/-- Goes on with the next instruction at a position. -/
def nextAt (s : State) (position : Nat) : Step :=
  .onward { s with address := s.address + 1, position := position }

/-- Goes on with the next instruction if a condition holds. -/
def nextIf (s : State) (condition : Bool) : Step := if condition then s.next else .stuck s

/-- Goes on at one address and stores a branch for another one. -/
def fork (s : State) (first second : Nat) : Step :=
  if branchLimit ≤ s.trail.size then .overfull
  else
    .onward { s with
      address := first
      trail := s.trail.push ⟨second, s.position, s.slots, s.marks⟩ }

/-- Forks between going on with the next instruction and leaving. -/
def forkLeave (s : State) (greedy : Bool) (leave : Nat) : Step :=
  if greedy then s.fork (s.address + 1) leave else s.fork leave (s.address + 1)

/-- The run when it takes up a branch. -/
def takeUp (s : State) (b : Branch) (trail : Trail) : State :=
  { s with
    address := b.address
    position := b.position
    slots := b.slots
    marks := b.marks
    trail := trail }

end State

/-- Whether a text stands at a position. -/
def standsAt (text : Array Char) : (position : Nat) → List Char → Bool
  | _, [] => true
  | position, c :: rest => text[position]? = some c && standsAt text (position + 1) rest

/-- The slots of a run with the groups of a plain part read off a table. -/
def readGroups (groups : PlainGroups) (table slots : Slots) : Slots :=
  (List.range (2 * groups.count)).foldl
    (fun slots i => slots.setIfInBounds (2 * (groups.before + 1) + i) (table[2 + i]?).join) slots

/-- A table with a given number of slots. -/
def fit (size : Nat) (table : Slots) : Slots :=
  table.take size ++ .replicate (size - table.size) none

/-- Runs a plain part with groups. -/
def runGroups (text : Array Char) (s : State) (program : Regular.Program) (groups : PlainGroups) :
    Step :=
  let table := fit (2 * (groups.count + 1)) s.table
  match program.matchAt? text s.position with
  | some found =>
    let table := groups.rule.afterMatch found table
    { s with table, slots := readGroups groups table s.slots }.nextAt found.stop
  | none => .stuck { s with table := groups.rule.afterMiss text s.position table }

/-- The slots of a run that accepts. A match that was made to start behind its end is empty. -/
def capStart (slots : Slots) : Slots :=
  match (slots[0]?).join, (slots[1]?).join with
  | some start, some stop => if stop < start then slots.setIfInBounds 0 (some stop) else slots
  | _, _ => slots

/-- Takes one instruction. `origin` is where the search began. -/
def step (text : Array Char) (origin : Nat) (s : State) : Instr → Step
  | .accept => .accepted (capStart s.slots)
  | .anyChar => if s.position < text.size then s.nextAt (s.position + 1) else .stuck s
  | .anyButLineFeed =>
    if text[s.position]?.any (· ≠ '\n') then s.nextAt (s.position + 1) else .stuck s
  | .assertion condition => s.nextIf (condition.holds text s.position)
  | .literal word =>
    if standsAt text s.position word then s.nextAt (s.position + word.length) else .stuck s
  | .fork first second => s.fork first second
  | .jump target => .onward { s with address := target }
  | .save slot => (s.set slot s.position).next
  | .clear slot => (s.set slot 0).next
  | .restore slot => s.nextAt ((s.slot? slot).getD 0)
  | .count greedy least most leave counter =>
    let done := (s.slot? counter).getD 0
    if most = some done then .onward { s with address := leave }
    else
      let s := s.set counter (done + 1)
      if least ≤ done then s.forkLeave greedy leave else s.next
  | .loop greedy least leave counter check =>
    let done := (s.slot? counter).getD 0
    if least < done && s.slot? check = some s.position then .stuck s
    else
      let s := s.set counter (done + 1)
      if least ≤ done then (s.set check s.position).forkLeave greedy leave else s.next
  | .refute => .stuck { s with trail := s.trail.before (s.address + 1) }
  | .goBack count => if count ≤ s.position then s.nextAt (s.position - count) else .stuck s
  | .backReference group =>
    match s.slot? (2 * group), s.slot? (2 * group + 1) with
    | some start, some stop =>
      if stop < start then .reversed
      else
        let word := (text.extract start stop).toList
        if standsAt text s.position word then s.nextAt (s.position + word.length) else .stuck s
    | _, _ => .stuck s
  | .groupMatched group => s.nextIf (s.slot? (2 * group)).isSome
  | .beginAtomic => { s with marks := s.trail.size :: s.marks }.next
  | .endAtomic =>
    match s.marks with
    | [] => s.next
    | count :: marks => { s with marks := marks, trail := s.trail.cut count }.next
  | .plain program none =>
    match program.matchAt? text s.position with
    | some found => s.nextAt found.stop
    | none => .stuck s
  | .plain program (some groups) => runGroups text s program groups
  | .searchStart => s.nextIf (s.position ≤ origin)

/-- How an attempt or a search ends. `credit` is how often the search may still go back, and `table`
is what its plain parts have left. -/
inductive Verdict where
  | accepted (slots : Slots)
  | failed (credit : Nat) (table : Slots)
  | aborted (cause : Abort)
  | reversed

/-- Runs a program. A run ends by itself, long before a `fuel` that is out of reach is used up. -/
def run (code : Array Instr) (text : Array Char) (origin : Nat) :
    (fuel credit : Nat) → State → Verdict
  | 0, _, _ => .aborted .backtrackLimit
  | fuel + 1, credit, s =>
    match step text origin s (code[s.address]?.getD .accept) with
    | .onward s => run code text origin fuel credit s
    | .accepted slots => .accepted slots
    | .overfull => .aborted .branchLimit
    | .reversed => .reversed
    | .stuck s =>
      match s.trail.pop?, credit with
      | none, _ => .failed credit s.table
      | some _, 0 => .aborted .backtrackLimit
      | some (b, trail), credit + 1 => run code text origin fuel credit (s.takeUp b trail)

namespace Program

/-- The number of steps that no run takes. -/
def runFuel : Nat := UInt64.size / 4

/-- The run from one start. -/
def attempt (p : Program) (text : Array Char) (origin credit position : Nat) (table : Slots) :
    Verdict :=
  run p.code text origin runFuel credit
    { address := 0
      position := position
      slots := .replicate p.slotCount none
      marks := []
      trail := .empty
      table := table }

/-- Attempts at `tries` positions, one after another. Each that fails counts as going back once,
also the last one, and leaves its table to the next. -/
def searchFrom (p : Program) (text : Array Char) (origin : Nat) :
    (tries credit position : Nat) → (table : Slots) → Verdict
  | 0, credit, _, table => .failed credit table
  | tries + 1, credit, position, table =>
    match p.attempt text origin credit position table with
    | .failed 0 _ => .aborted .backtrackLimit
    | .failed (credit + 1) table => p.searchFrom text origin tries credit (position + 1) table
    | verdict => verdict

/-- A search from a position on that may go back a limited number of times. -/
def search (p : Program) (text : Array Char) (backtrackLimit position : Nat) : Verdict :=
  p.searchFrom text position (text.size + 1 - position) backtrackLimit position #[]

end Program

end Backtrack

end GrammarScan
