import GrammarScan.Automaton.Characters
import GrammarScan.Automaton.Words
import GrammarScan.Text.Bytes

/-!
# Plain expressions as automata

An expression is laid out once for reading forward and once for reading backward; groups are marked
in the forward direction alone. Repetition is written out, with loops and options behind the copies
that have to be there. In front stands a loop that lets a match begin anywhere, unless the
expression can only match at the end of the text that reading begins at.
-/

namespace GrammarScan

/-- The bytes of a text. -/
def bytesOf (text : List Char) : List Nat :=
  text.flatMap fun c => (String.utf8EncodeChar c).map UInt8.toNat

namespace Regular

mutual

/-- Whether every match begins at the start of the text, as far as the first parts tell. -/
def beginsAtStart : Regular → Bool
  | .place condition => condition = .textStart
  | .group _ body => beginsAtStart body
  | .iteration least _ _ body => 0 < least && beginsAtStart body
  | .concat parts => oneBeginsAtStart parts
  | .alternation branches => !branches.isEmpty && allBeginAtStart branches
  | .empty | .literal _ | .set _ _ => false

/-- Whether one of the first parts of a sequence, those that take up nothing and the one behind
them, holds only at the start of the text. -/
def oneBeginsAtStart : List Regular → Bool
  | [] => false
  | part :: rest => beginsAtStart part || matchesOnlyEmpty part && oneBeginsAtStart rest

/-- Whether every expression of a list holds only at the start of the text. -/
def allBeginAtStart : List Regular → Bool
  | [] => true
  | r :: rest => beginsAtStart r && allBeginAtStart rest

end

mutual

/-- Whether every match ends at the end of the text, as far as the last parts tell. -/
def endsAtEnd : Regular → Bool
  | .place condition => condition = .textEnd
  | .group _ body => endsAtEnd body
  | .iteration least _ _ body => 0 < least && endsAtEnd body
  | .concat parts => oneEndsAtEnd parts
  | .alternation branches => !branches.isEmpty && allEndAtEnd branches
  | .empty | .literal _ | .set _ _ => false

/-- Whether one of the last parts of a sequence, those that take up nothing and the one before them,
holds only at the end of the text. -/
def oneEndsAtEnd : List Regular → Bool
  | [] => false
  | part :: rest => oneEndsAtEnd rest || endsAtEnd part && allMatchOnlyEmpty rest

/-- Whether every expression of a list holds only at the end of the text. -/
def allEndAtEnd : List Regular → Bool
  | [] => true
  | r :: rest => endsAtEnd r && allEndAtEnd rest

end

/-- The words of a choice between words. -/
def words? (branches : List Regular) : Option (List (List Nat)) :=
  if branches.length < 2 then none
  else
    branches.mapM fun
      | .literal text => some (bytesOf text)
      | _ => none

end Regular

namespace Automaton

open Drawing

/-- Sections one after another, each drawn when its turn comes. -/
def chainMany (draw : Drawing Section) : (count : Nat) → Section → Drawing Section
  | 0, front => return front
  | count + 1, front => do
    let next ← draw
    chainMany draw count (← chain front next)

/-- A number of copies; of none there is a part that is passed through. -/
def copies (draw : Drawing Section) : (count : Nat) → Drawing Section
  | 0 => nothing
  | count + 1 => do chainMany draw count (← draw)

/-- A copy that may be left out, which leads to `stop` with what stands before it. -/
def option (draw : Drawing Section) (greedy : Bool) (stop before : Nat) : Drawing Nat := do
  let fork ← add (.ways (!greedy) [])
  let body ← draw
  connect before fork
  connect fork body.start
  connect fork stop
  return body.stop

/-- Nested options, which all lead to `stop`. -/
def options (draw : Drawing Section) (greedy : Bool) (stop : Nat) :
    (count before : Nat) → Drawing Unit
  | 0, before => connect before stop
  | count + 1, before => do options draw greedy stop count (← option draw greedy stop before)

/-- A repetition without an upper bound behind the first `least` copies. -/
def loop (draw : Drawing Section) (greedy consumes : Bool) : (least : Nat) → Drawing Section
  | 0 => do
    if consumes then
      let fork ← add (.ways (!greedy) [])
      let body ← draw
      connect fork body.start
      connect body.stop fork
      return ⟨fork, fork⟩
    else
      let body ← draw
      let again ← add (.ways (!greedy) [])
      connect body.stop again
      connect again body.start
      let enter ← add (.ways (!greedy) [])
      let stop ← add (.pass 0)
      connect enter body.start
      connect enter stop
      connect again stop
      return ⟨enter, stop⟩
  | 1 => do
    let body ← draw
    let again ← add (.ways (!greedy) [])
    connect body.stop again
    connect again body.start
    return ⟨body.start, again⟩
  | least + 2 => do
    let front ← copies draw (least + 1)
    let last ← draw
    let again ← add (.ways (!greedy) [])
    connect front.stop last.start
    connect last.stop again
    connect again last.start
    return ⟨front.start, again⟩

/-- A repetition. -/
def repetition (draw : Drawing Section) (greedy consumes : Bool) (least : Nat) (most : Option Nat) :
    Drawing Section := do
  match most with
  | none => loop draw greedy consumes least
  | some most =>
    if least = 0 && most = 1 then
      let fork ← add (.ways (!greedy) [])
      let body ← draw
      let stop ← add (.pass 0)
      connect fork body.start
      connect fork stop
      connect body.stop stop
      return ⟨fork, stop⟩
    else
      let front ← copies draw least
      if least = most then return front
      let stop ← add (.pass 0)
      options draw greedy stop (most - least) front.stop
      return ⟨front.start, stop⟩

/-- Sections one after another; of none there is a part that is passed through. -/
def chainAll : List Section → Drawing Section
  | [] => nothing
  | first :: rest => rest.foldlM chain first

/-- A literal, read in the given direction. -/
def literal (forward : Bool) (text : List Char) : Drawing Section := do
  let bytes := bytesOf text
  let states ← (if forward then bytes else bytes.reverse).mapM fun b => byte b b
  chainAll states

mutual

/-- The part for an expression, read in the given direction. -/
def draw (forward : Bool) : Regular → Drawing Section
  | .empty => nothing
  | .place condition => ofState (.place condition 0)
  | .literal text => literal forward text
  | .set s _ => Characters.draw forward s
  | .group index body =>
    if forward then do
      let enter ← add (.save (2 * index) 0)
      let inner ← draw forward body
      let leave ← add (.save (2 * index + 1) 0)
      connect enter inner.start
      connect inner.stop leave
      return ⟨enter, leave⟩
    else draw forward body
  | .iteration least most greedy body =>
    repetition (draw forward body) greedy body.alwaysConsumes least most
  | .concat parts => do
    let parts ← drawParts forward parts
    if forward then chainAll parts else chainAll parts.reverse
  | .alternation branches =>
    match Regular.words? branches with
    | some words => WordTree.drawWords (if forward then words else words.map List.reverse)
    | none => drawBranches forward branches

/-- The parts of a sequence, drawn in the order in which they are read. -/
def drawParts (forward : Bool) : List Regular → Drawing (List Section)
  | [] => return []
  | r :: rest => do
    if forward then
      let first ← draw forward r
      let rest ← drawParts forward rest
      return first :: rest
    else
      let rest ← drawParts forward rest
      let first ← draw forward r
      return first :: rest

/-- The branches of a choice. The state that offers them is added behind the second one. -/
def drawBranches (forward : Bool) : List Regular → Drawing Section
  | [] => ofState (.ways false [])
  | r :: rest => do
    let first ← draw forward r
    drawSecond forward first rest

/-- A choice whose first branch is drawn. -/
def drawSecond (forward : Bool) (first : Section) : List Regular → Drawing Section
  | [] => return first
  | r :: rest => do
    let second ← draw forward r
    let start ← add (.ways false [])
    let stop ← add (.pass 0)
    connect start first.start
    connect first.stop stop
    connect start second.start
    connect second.stop stop
    drawOthers forward ⟨start, stop⟩ rest
    return ⟨start, stop⟩

/-- The branches of a choice behind the second one. -/
def drawOthers (forward : Bool) (around : Section) : List Regular → Drawing Unit
  | [] => return
  | r :: rest => do
    let branch ← draw forward r
    connect around.start branch.start
    connect branch.stop around.stop
    drawOthers forward around rest

end

/-- The loop in front, by which a match can begin anywhere; without it a part that is passed
through. -/
def lead (anywhere : Bool) : Drawing Section :=
  if anywhere then loop (branch [(0, 0xFF)]) false true 0 else nothing

/-- The whole automaton, and where it is entered for a match that begins right there. -/
def drawWhole (forward : Bool) (r : Regular) : Drawing Nat := do
  let anchored := if forward then r.beginsAtStart else r.endsAtEnd
  let front ← lead !anchored
  let body ← draw forward (if forward then .group 0 r else r)
  let stop ← add .accept
  connect body.stop stop
  connect front.stop body.start
  return body.start

/-- The bound on the size of an automaton for which no other one is given. -/
def ownSizeLimit : Nat := 10485760

/-- The states of the automaton of an expression and the number of the first one, unless they take
up more bytes than a bound. -/
def ofRegular? (forward : Bool) (limit : Nat) (r : Regular) : Option (Array ByteState × Nat) :=
  (drawWhole forward r ⟨#[], 0, limit⟩).map fun (start, d) => (d.states, start)

end Automaton

end GrammarScan
