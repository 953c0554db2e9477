import GrammarScan.Regular.Program

/-!
# Running programs of plain expressions

All ways through a program are followed at once, one character of the text at a time, in the order
of preference. Of two ways that reach the same instruction at the same position only the preferred
one goes on, so the work is bounded by the size of the program times the length of the text. When a
way accepts, the less preferred ways are given up and the others may still do better by going on.

A search is a run of the whole program, whose lead prefers the earliest start. Where a program
leaves no choice its matches are as short as its code, and one start is tried after another.
-/

namespace GrammarScan

/-- Whether a condition holds at a position. -/
def Place.holds (text : Array Char) (position : Nat) : Place → Bool
  | .textStart => position = 0
  | .textEnd => position = text.size
  | .lineStart => position = 0 || text[position - 1]? = some '\n'
  | .lineEnd => position = text.size || text[position]? = some '\n'
  | .returnLineStart =>
    position = 0 || text[position - 1]? = some '\n' ||
      text[position - 1]? = some '\r' && text[position]? ≠ some '\n'
  | .returnLineEnd =>
    position = text.size || text[position]? = some '\r' ||
      text[position]? = some '\n' && (position = 0 || text[position - 1]? ≠ some '\r')

namespace Regular

/-- Positions saved for the groups: start and end of each in turn. -/
abbrev Slots := Array (Option Nat)

/-- One way through a program: the instruction it has come to and what it has saved. -/
structure Thread where
  address : Nat
  slots : Slots

/-- The ways that wait for the next character, the least preferred first, and for each instruction
the last position at which it was come to, counted from 1 on. -/
structure Front where
  waiting : List Thread
  seen : Array Nat

/-- Nothing was come to yet. -/
def Front.empty (code : Array Instr) : Front := ⟨[], .replicate code.size 0⟩

/-- No way waits any more. -/
def Front.leave (front : Front) : Front := { front with waiting := [] }

/-- Whether an instruction was come to at a position. -/
def Front.hasSeen (front : Front) (position address : Nat) : Bool :=
  front.seen.getD address 0 = position + 1

/-- An instruction is come to at a position. -/
def Front.mark (front : Front) (position address : Nat) : Front :=
  { front with seen := front.seen.setIfInBounds address (position + 1) }

/-- Follows ways through the instructions that take up no character. Every instruction is entered
at most once and leads to at most two, so `fuel` is enough if it is more than twice the number of
instructions plus the number of pending ways. -/
def follow (code : Array Instr) (text : Array Char) (position : Nat) :
    (fuel : Nat) → (pending : List Thread) → Front → Front
  | 0, _, front => front
  | _ + 1, [], front => front
  | fuel + 1, t :: pending, front =>
    if front.hasSeen position t.address then follow code text position fuel pending front
    else
      let front := front.mark position t.address
      match code[t.address]? with
      | none => follow code text position fuel pending front
      | some (.jump target) =>
        follow code text position fuel ({ t with address := target } :: pending) front
      | some (.fork first second) =>
        follow code text position fuel
          ({ t with address := first } :: { t with address := second } :: pending) front
      | some (.save slot) =>
        follow code text position fuel
          (⟨t.address + 1, t.slots.setIfInBounds slot (some position)⟩ :: pending) front
      | some (.place condition) =>
        if condition.holds text position then
          follow code text position fuel ({ t with address := t.address + 1 } :: pending) front
        else follow code text position fuel pending front
      | some (.char _) | some (.set _) | some .accept =>
        follow code text position fuel pending { front with waiting := t :: front.waiting }

/-- The front with one more way, which is less preferred than those in it. -/
def enter (code : Array Instr) (text : Array Char) (position : Nat) (front : Front) (t : Thread) :
    Front :=
  follow code text position (2 * code.size + 2) [t] front

/-- A match: where it begins and ends, and what was saved. -/
structure Match where
  start : Nat
  stop : Nat
  slots : Slots

/-- The match of a way that accepts at a position. -/
def Thread.toMatch (t : Thread) (position : Nat) : Match :=
  ⟨(t.slots[0]?).join.getD position, position, t.slots⟩

/-- Takes the waiting ways over the character at a position, in the order of preference, up to the
first that accepts. -/
def advance (code : Array Instr) (text : Array Char) (position : Nat) :
    List Thread → (best : Option Match) → (next : Front) → Option Match × Front
  | [], best, next => (best, next)
  | t :: rest, best, next =>
    let onward (_ : Unit) : Option Match × Front :=
      advance code text position rest best
        (enter code text (position + 1) next { t with address := t.address + 1 })
    match code[t.address]? with
    | some .accept => (some (t.toMatch position), next)
    | some (.char c) =>
      if text[position]? = some c then onward () else advance code text position rest best next
    | some (.set s) =>
      if text[position]?.any s.contains then onward ()
      else advance code text position rest best next
    | _ => advance code text position rest best next

/-- Follows the waiting ways from a position with `remaining` characters behind it. -/
def runFrom (code : Array Instr) (text : Array Char) :
    (remaining : Nat) → (position : Nat) → Front → (best : Option Match) → Option Match
  | 0, position, front, best =>
    (advance code text position front.waiting.reverse best front.leave).1
  | remaining + 1, position, front, best =>
    let (best, next) := advance code text position front.waiting.reverse best front.leave
    if next.waiting.isEmpty then best else runFrom code text remaining (position + 1) next best

namespace Program

/-- The match of a program that is entered at an address. -/
def runAt? (p : Program) (text : Array Char) (address position : Nat) : Option Match :=
  let start : Thread := ⟨address, .replicate (2 * p.groupBound) none⟩
  let front := enter p.code text position (.empty p.code) start
  runFrom p.code text (text.size - position) position front none

/-- The match that starts at a position. -/
def matchAt? (p : Program) (text : Array Char) (position : Nat) : Option Match :=
  p.runAt? text here position

/-- The first match that starts at one of `tries` positions from `position` on. -/
def searchFrom? (p : Program) (text : Array Char) : (tries position : Nat) → Option Match
  | 0, _ => none
  | tries + 1, position =>
    match p.matchAt? text position with
    | some found => some found
    | none => p.searchFrom? text tries (position + 1)

/-- The first match that starts at a position or behind it. -/
def search? (p : Program) (text : Array Char) (position : Nat) : Option Match :=
  if p.isStraight then p.searchFrom? text (text.size + 1 - position) position
  else p.runAt? text anywhere position

end Program

end Regular

end GrammarScan
