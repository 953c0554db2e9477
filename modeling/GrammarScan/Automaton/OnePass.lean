import GrammarScan.Automaton.OfRegular

/-!
# One-pass automata

An automaton is one-pass if, from wherever a byte has led, no two ways that take up nothing meet,
at most one of them accepts, and a byte always leaves but one choice: two steps on the same byte go
to the same state, save the same slots, ask for the same places and agree on whether something
preferred has accepted. Such an automaton can save the slots of its groups while it reads forward,
without a search before. It is only asked of expressions with groups, not too many of them, whose
table of steps stays small.
-/

namespace GrammarScan.Automaton

/-- The greatest number of a group of a one-pass automaton. -/
def groupLimit : Nat := 16

/-- The greatest number of bytes that the table of steps may take up. -/
def tableLimit : Nat := 1024 * 1024

/-- What happens on a way that takes up nothing: the slots that are saved and the places that are
asked for, each as the bits of a number. -/
structure Passage where
  slots : Nat
  places : Nat
  deriving DecidableEq, Inhabited, Repr

/-- A step from where a byte has led: what happens before it, whether something preferred has
accepted, and the step itself. -/
structure Departure where
  passage : Passage
  accepted : Bool
  move : ByteStep
  deriving DecidableEq, Inhabited, Repr

/-- The bit of a place. -/
def placeBit : Place → Nat
  | .textStart => 1
  | .textEnd => 2
  | .lineStart => 4
  | .lineEnd => 8
  | .returnLineStart => 16
  | .returnLineEnd => 32

/-- What is known while ways are followed: the states met, whether one of them accepts, and the
departures found. -/
structure Survey where
  seen : Nat
  accepted : Bool
  departures : List Departure

/-- The state that is come to through states that are only passed. -/
def settle (states : Array ByteState) : (fuel : Nat) → Nat → Nat
  | 0, state => state
  | fuel + 1, state =>
    match states[state]? with
    | some (.pass next) => settle states fuel next
    | some (.ways _ [next]) => settle states fuel next
    | _ => state

/-- Follows the ways that take up nothing, the preferred first. Fails where two of them meet and
where a second one accepts. No state is met twice, so `fuel` is enough if it is more than the number
of states. -/
def survey? (states : Array ByteState) : (fuel : Nat) → List (Nat × Passage) → Survey →
    Option Survey
  | _, [], s => some s
  | 0, _, _ => none
  | fuel + 1, (state, passage) :: pending, s =>
    let state := settle states states.size state
    if s.seen.testBit state then none
    else
      let s := { s with seen := s.seen ||| (1 <<< state) }
      let depart (steps : List ByteStep) : Survey :=
        { s with departures := steps.map (⟨passage, s.accepted, ·⟩) ++ s.departures }
      match states[state]? with
      | none => none
      | some .accept =>
        if s.accepted then none else survey? states fuel pending { s with accepted := true }
      | some (.single move) => survey? states fuel pending (depart [move])
      | some (.branch steps) => survey? states fuel pending (depart steps)
      | some (.place condition next) =>
        let passage := { passage with places := passage.places ||| placeBit condition }
        survey? states fuel ((next, passage) :: pending) s
      | some (.save slot next) =>
        let slots := if slot < 2 then passage.slots else passage.slots ||| (1 <<< slot)
        survey? states fuel ((next, { passage with slots }) :: pending) s
      | some state => survey? states fuel (state.targets.map (·, passage) ++ pending) s

/-- Whether two departures that share a byte are the same choice. -/
def agree (states : Array ByteState) (a b : Departure) : Bool :=
  b.move.hi < a.move.lo || a.move.hi < b.move.lo ||
    a.passage = b.passage && a.accepted = b.accepted &&
      settle states states.size a.move.next = settle states states.size b.move.next

/-- Whether any two departures that share a byte are the same choice. -/
def allAgree (states : Array ByteState) : List Departure → Bool
  | [] => true
  | d :: rest => rest.all (agree states d) && allAgree states rest

/-- The bytes behind which another class of bytes begins: bytes of one class are told apart
nowhere. -/
def boundaries (states : Array ByteState) : List Nat :=
  let ofRange (lo hi : Nat) : List Nat := if 0 < lo then [lo - 1, hi] else [hi]
  let all := states.toList.flatMap fun
    | .single move => ofRange move.lo move.hi
    | .branch steps => steps.flatMap fun s => ofRange s.lo s.hi
    | .place .lineStart _ | .place .lineEnd _ => ofRange 10 10
    | .place .returnLineStart _ | .place .returnLineEnd _ => ofRange 10 10 ++ ofRange 13 13
    | _ => []
  (List.range 255).filter all.contains

/-- The number of bytes that one row of the table takes up: a word for each class of bytes and one
more, filled up to a power of two. -/
def rowSize (states : Array ByteState) : Nat :=
  8 * ((boundaries states).length + 2).nextPowerOfTwo

/-- Surveys every state that a byte leads to, as long as the table of steps stays small. Every state
is surveyed at most once, so `fuel` is enough if it is more than their number. -/
def isOnePassFrom (states : Array ByteState) (row : Nat) :
    (fuel : Nat) → (known : Nat) → (rows : Nat) → (pending : List Nat) → Bool
  | _, _, _, [] => true
  | 0, _, _, _ => false
  | fuel + 1, known, rows, state :: pending =>
    match survey? states (states.size + 1) [(state, ⟨0, 0⟩)] ⟨0, false, []⟩ with
    | none => false
    | some s =>
      if !allAgree states s.departures then false
      else
        let (known, rows, pending) :=
          s.departures.foldr
            (fun d (known, rows, pending) =>
              let next := settle states states.size d.move.next
              if Nat.testBit known next then (known, rows, pending)
              else (known ||| (1 <<< next), rows + 1, next :: pending))
            (known, rows, pending)
        rows * row + 8 ≤ tableLimit && isOnePassFrom states row fuel known rows pending

/-- Whether the automaton of an expression is one-pass. -/
def isOnePass (limit : Nat) (r : Regular) : Bool :=
  0 < r.groupCount && r.groupBound ≤ groupLimit + 1 &&
    match ofRegular? true limit r with
    | none => false
    | some (states, start) =>
      let start := settle states states.size start
      isOnePassFrom states (rowSize states) (states.size + 1) (1 <<< start) 2 [start]

end GrammarScan.Automaton
