import GrammarScan.Automaton.Basic
import GrammarScan.Text.ByteRanges

/-!
# Sets of characters as automata

The characters of a set are told apart by their bytes. Read forward, the byte sequences of a set
become states that share equal endings; read backward, they become chains that share equal
beginnings, as long as a table of what was made remembers them. A table has a fixed number of
places, and what is remembered at a place is forgotten when something else takes it.
-/

namespace GrammarScan.Characters

/-- A table of states that were made, under what they were made from. -/
structure Table (Key : Type) where
  places : Array (Option (Key × Nat))

namespace Table

variable {Key : Type}

/-- A table with nothing in it. -/
def empty (places : Nat) : Table Key := ⟨.replicate places none⟩

/-- The state that is remembered for a key at its place. -/
def get? [BEq Key] (t : Table Key) (place : Nat) (key : Key) : Option Nat :=
  match (t.places[place]?).join with
  | some (key', state) => if key == key' then some state else none
  | none => none

/-- Remembers a state for a key at its place. -/
def set (t : Table Key) (place : Nat) (key : Key) (state : Nat) : Table Key :=
  ⟨t.places.setIfInBounds place (some (key, state))⟩

end Table

/-- The place of a sequence of numbers among so many, by the FNV-1a hash. -/
def placeOf (places : Nat) (numbers : List Nat) : Nat :=
  let hash : UInt64 :=
    numbers.foldl (fun h n => (h ^^^ n.toUInt64) * 1099511628211) 14695981039346656037
  hash.toNat % places

/-- A node of the byte sequences that is still growing: the steps behind which all is made, the
latest first, and the range of the last step. -/
structure Growing where
  steps : List ByteStep
  last : Option (Nat × Nat)
  deriving Inhabited

/-- The node with its last step led to a state. -/
def Growing.close (g : Growing) (next : Nat) : Growing :=
  match g.last with
  | some (lo, hi) => ⟨⟨lo, hi, next⟩ :: g.steps, none⟩
  | none => g

/-- The number of places for what is made in the forward direction. -/
def forwardPlaces : Nat := 10000

/-- The number of places for what is made in the backward direction. -/
def backwardPlaces : Nat := 1000

/-- Makes the state of a node, unless it is remembered. -/
def makeState (table : Table (List ByteStep)) (g : Growing) :
    Drawing (Nat × Table (List ByteStep)) := do
  let steps := g.steps.reverse
  let place := placeOf forwardPlaces (steps.flatMap fun s => [s.lo, s.hi, s.next])
  match table.get? place steps with
  | some state => return (state, table)
  | none =>
    let state ← Drawing.add (.branch steps)
    return (state, table.set place steps state)

/-- Makes the states of nodes, the outermost first; the innermost one leads to the end. -/
def closeNodes (stop : Nat) (table : Table (List ByteStep)) :
    List Growing → Drawing (Nat × Table (List ByteStep))
  | [] => return (stop, table)
  | g :: inner => do
    let (next, table) ← closeNodes stop table inner
    makeState table (g.close next)

/-- Makes the states of all nodes behind the first `keep` steps. -/
def closeBehind (stop keep : Nat) (table : Table (List ByteStep)) (nodes : List Growing) :
    Drawing (List Growing × Table (List ByteStep)) := do
  match nodes.drop keep with
  | [] => return (nodes, table)
  | g :: inner =>
    let (next, table) ← closeNodes stop table inner
    return (nodes.take keep ++ [g.close next], table)

/-- Nodes with a sequence appended, whose first step belongs to the last node. -/
def grow (nodes : List Growing) : ByteRanges → List Growing
  | [] => nodes
  | first :: rest =>
    let here := (nodes.getLast?.getD default).steps
    nodes.dropLast ++ ⟨here, some first⟩ :: rest.map fun r => ⟨[], some r⟩

/-- Adds a sequence to the nodes; its beginning may be that of the sequence before. -/
def addSequence (stop : Nat) (nodes : List Growing) (table : Table (List ByteStep))
    (sequence : ByteRanges) : Drawing (List Growing × Table (List ByteStep)) := do
  let keep := ((sequence.zip nodes).takeWhile fun (r, g) => g.last = some r).length
  let (nodes, table) ← closeBehind stop keep table nodes
  return (grow nodes (sequence.drop keep), table)

/-- The states for sequences in the forward direction. -/
def drawForward (sequences : List ByteRanges) : Drawing Section := do
  let stop ← Drawing.add (.pass 0)
  let (nodes, table) ← sequences.foldlM
    (fun (nodes, table) sequence => addSequence stop nodes table sequence)
    ([⟨[], none⟩], .empty forwardPlaces)
  let (nodes, table) ← closeBehind stop 0 table nodes
  let (start, _) ← makeState table (nodes.headD ⟨[], none⟩)
  return ⟨start, stop⟩

/-- A chain of states for a sequence, which is read from its last byte on and ends at `stop`; gives
the state where the chain is entered. -/
def drawChain (stop : Nat) (table : Table (Nat × Nat × Nat)) :
    ByteRanges → Drawing (Nat × Table (Nat × Nat × Nat))
  | [] => return (stop, table)
  | (lo, hi) :: rest => do
    let key := (stop, lo, hi)
    let place := placeOf backwardPlaces [stop, lo, hi]
    match table.get? place key with
    | some state => drawChain state table rest
    | none =>
      let state ← Drawing.add (.single ⟨lo, hi, stop⟩)
      drawChain state (table.set place key state) rest

/-- The states for sequences in the backward direction. -/
def drawBackward (sequences : List ByteRanges) : Drawing Section := do
  let start ← Drawing.add (.ways false [])
  let stop ← Drawing.add (.pass 0)
  let _ ← sequences.foldlM
    (fun table sequence => do
      let (entered, table) ← drawChain stop table sequence
      Drawing.connect start entered
      return table)
    (.empty backwardPlaces)
  return ⟨start, stop⟩

/-- The states for a set. Sets of ASCII characters are a single branching in both directions. -/
def draw (forward : Bool) (s : CharSet) : Drawing Section :=
  if s.ranges.all fun r => r.2 < 0x80 then Drawing.branch s.ranges
  else if forward then drawForward s.byteSequences
  else drawBackward s.byteSequences

end GrammarScan.Characters
