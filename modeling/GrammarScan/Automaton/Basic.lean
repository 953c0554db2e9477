import GrammarScan.Regular.Tree

/-!
# Automata over bytes

A plain expression can be laid out as an automaton that reads the bytes of a text. Its states are
numbered in the order in which they are added; a state may be added before the states that it leads
to, and is then connected to them later. The size of an automaton is the number of bytes that its
states take up, and drawing one ends without a result as soon as a bound on the size is exceeded.
-/

namespace GrammarScan

/-- A transition of a state to another one on the bytes of a closed range. -/
structure ByteStep where
  lo : Nat
  hi : Nat
  next : Nat
  deriving DecidableEq, Inhabited, Repr

/-- A state of an automaton over bytes. The ways that a state offers are kept with the latest one
first; of a lazy state the latest way is the preferred one, else the earliest. -/
inductive ByteState where
  | pass (next : Nat)
  | single (move : ByteStep)
  | branch (steps : List ByteStep)
  | place (condition : Place) (next : Nat)
  | save (slot next : Nat)
  | ways (lazily : Bool) (latestFirst : List Nat)
  | accept
  deriving Inhabited, Repr

namespace ByteState

/-- The number of bytes that a state takes up: more with each of its ways, and with each step of a
state that branches. -/
def size : ByteState → Nat
  | .branch steps => 32 + 8 * steps.length
  | .ways _ targets => 32 + 4 * targets.length
  | .pass _ | .single _ | .place _ _ | .save _ _ | .accept => 32

/-- The state with a connection to a target: another way for a state with ways, and what follows for
one that has a single way out. -/
def connect (target : Nat) : ByteState → ByteState
  | .pass _ => .pass target
  | .single move => .single { move with next := target }
  | .place condition _ => .place condition target
  | .save slot _ => .save slot target
  | .ways lazily targets => .ways lazily (target :: targets)
  | .branch steps => .branch steps
  | .accept => .accept

/-- The ways of a state, the preferred first. -/
def targets : ByteState → List Nat
  | .ways true latestFirst => latestFirst
  | .ways false latestFirst => latestFirst.reverse
  | .pass next | .place _ next | .save _ next => [next]
  | .single _ | .branch _ | .accept => []

end ByteState

/-- An automaton that is being drawn: its states, their size, and the bound on it. -/
structure Draft where
  states : Array ByteState
  size : Nat
  limit : Nat
  deriving Inhabited, Repr

/-- A step of drawing. -/
abbrev Drawing := StateT Draft Option

/-- A part of an automaton, by the states where it is entered and left. -/
structure Section where
  start : Nat
  stop : Nat
  deriving DecidableEq, Inhabited, Repr

namespace Drawing

/-- Adds a state and gives its number. -/
def add (state : ByteState) : Drawing Nat := fun d =>
  let size := d.size + state.size
  if d.limit < size then none
  else some (d.states.size, { d with states := d.states.push state, size })

/-- Connects a state to another one. -/
def connect (source target : Nat) : Drawing Unit := fun d =>
  let before := (d.states[source]?.map ByteState.size).getD 0
  let after := (d.states[source]?.map fun s => (s.connect target).size).getD 0
  let size := d.size + (after - before)
  if d.limit < size then none
  else some ((), { d with states := d.states.modify source (·.connect target), size })

/-- Adds a part that is one state. -/
def ofState (state : ByteState) : Drawing Section := do
  let here ← add state
  return ⟨here, here⟩

/-- Adds a part that is passed through. -/
def nothing : Drawing Section := ofState (.pass 0)

/-- Adds a part that takes one byte out of a range. -/
def byte (lo hi : Nat) : Drawing Section := ofState (.single ⟨lo, hi, 0⟩)

/-- One part after another. -/
def chain (first second : Section) : Drawing Section := do
  connect first.stop second.start
  return ⟨first.start, second.stop⟩

/-- Adds a state that the given steps leave; their ends are where the part is left. -/
def branch (steps : List (Nat × Nat)) : Drawing Section := do
  let stop ← add (.pass 0)
  let start ← add (.branch (steps.map fun (lo, hi) => ⟨lo, hi, stop⟩))
  return ⟨start, stop⟩

end Drawing

end GrammarScan
