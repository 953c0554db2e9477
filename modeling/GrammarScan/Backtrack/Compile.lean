import GrammarScan.Backtrack.Program
import GrammarScan.Expression.Shape
import GrammarScan.Regular.OfExpression
import GrammarScan.Regular.Size

/-!
# Compiling to programs with backtracking

Parts of a tree that need no backtracking are handed to programs of their own where nothing has to
go back into them: in the bodies of look-around and atomic groups, and at the ends of a sequence as
long as their length is fixed. `hard` says that the surroundings may have to come back.
-/

namespace GrammarScan.Backtrack

/-- A step of compilation; the state is the number of slots in use. -/
abbrev Compiler := StateT Nat (Except MeaningFault)

/-- A slot that is not in use. -/
def newSlot : Compiler Nat := modifyGet fun n => (n, n + 1)

/-- One instruction for parts that need no backtracking: their text if they are nothing else, or a
plain program. -/
def plainInstr (parts : List Expression) : Compiler Instr :=
  match Expression.plainTextOf? parts with
  | some text => return .literal text
  | none => do
    let groups := Expression.groupsOf parts
    let before := groups.head?.getD 1 - 1
    let body ← Regular.ofParts .branch before parts
    let program ← body.compile Automaton.ownSizeLimit
    if groups.isEmpty then return .plain program none
    return .plain program (some ⟨before, groups.length, .ofRegular body⟩)

/-- The instructions for the plain end of a sequence, which may be empty. -/
def plainCode (parts : List Expression) : Compiler (List Instr) :=
  if parts.isEmpty then return [] else return [← plainInstr parts]

/-- How many parts at the front of a sequence can be handed to a plain program. -/
def plainFront (parts : List Expression) : Nat :=
  (parts.takeWhile fun e => e.hasFixedLength && !e.isHard).length

/-- How many parts at the back can be handed to a plain program. -/
def plainBack (hard : Bool) (parts : List Expression) : Nat :=
  (parts.reverse.takeWhile fun e => !e.isHard && (!hard || e.hasFixedLength)).length

/-- The length of a choice between branches with the given code. -/
def choiceLength : List (List Instr) → Nat
  | [] => 0
  | [code] => code.length
  | code :: rest => code.length + 2 + choiceLength rest

/-- A choice between branches with the given code, which goes on at `leave`. -/
def choiceCode (leave : Nat) : (base : Nat) → List (List Instr) → List Instr
  | _, [] => []
  | _, [code] => code
  | base, code :: rest =>
    let next := base + code.length + 2
    .fork (base + 1) next :: code ++ .jump leave :: choiceCode leave next rest

/-- The step back before the body of a look-behind, which has to have a fixed length. -/
def stepBack (side : Side) (body : Expression) : Compiler (List Instr) :=
  match side with
  | .ahead => return []
  | .behind =>
    if body.hasFixedLength then return [.goBack body.minLength] else throw .variableLookBehind

/-- A look-around with the given body at address `base`. A positive one comes back to where it
began; a negative one fails with all that its body left behind, or else goes on. -/
def lookCode (negated : Bool) (slot base : Nat) (body : List Instr) : List Instr :=
  if negated then .fork (base + 1) (base + body.length + 2) :: body ++ [.refute]
  else .save slot :: body ++ [.restore slot]

/-- A repetition with the given body at address `base` whose copies are told apart by a counter. -/
def countCode (greedy : Bool) (least : Nat) (most : Option Nat) (counter base : Nat)
    (body : List Instr) : List Instr :=
  [.clear counter, .count greedy least most (base + body.length + 3) counter] ++ body ++
    [.jump (base + 1)]

/-- A repetition without an upper bound whose body may match nothing. -/
def loopCode (greedy : Bool) (least counter check base : Nat) (body : List Instr) : List Instr :=
  [.clear counter, .loop greedy least (base + body.length + 3) counter check] ++ body ++
    [.jump (base + 1)]

/-- Whether a tree is a choice. -/
def isChoice : Expression → Bool
  | .alternation _ => true
  | _ => false

mutual

/-- The instructions of a tree at address `base`. -/
def compile : Expression → (hard : Bool) → (base : Nat) → Compiler (List Instr)
  | e, hard, base =>
    if !hard && !e.isHard then return [← plainInstr [e]]
    else
      match e with
      | .empty => return []
      | .anyChar true => return [.anyChar]
      | .anyChar false => return [.anyButLineFeed]
      | .assertion condition => return [.assertion condition]
      | .literal _ _ | .charClass _ _ => return [← plainInstr [e]]
      | .concat parts => do
        let front := plainFront parts
        let back := plainBack hard (parts.drop front)
        let middle := parts.length - front - back
        let first ← plainCode (parts.take front)
        let body ← compileMiddle front middle parts (base + first.length)
        let last ← plainCode (parts.drop (front + middle))
        return first ++ body ++ last
      | .alternation branches => do
        let codes ← compileBranches hard branches base
        return choiceCode (base + choiceLength codes) base codes
      | .group index body => do
        let code ← compile body hard (base + 1)
        return .save (2 * index) :: code ++ [.save (2 * index + 1)]
      | .lookAround side negated body => do
        if side = .behind && isChoice body && !body.hasFixedLength then
          compileEachBehind negated body base
        else
          let slot ← if negated then pure 0 else newSlot
          let back ← stepBack side body
          let code ← compile body false (base + 1 + back.length)
          return lookCode negated slot base (back ++ code)
      | .iteration least most greedy body => do
        if least = 0 && most = some 1 then
          let code ← compile body hard (base + 1)
          return .choose greedy (base + 1) (base + code.length + 1) :: code
        else
          let hard := hard || e.isHard
          if most = none && body.minLength = 0 then
            let counter ← newSlot
            let check ← newSlot
            let code ← compile body hard (base + 2)
            return loopCode greedy least counter check base code
          else if least = 0 && most = none then
            let code ← compile body hard (base + 1)
            return .choose greedy (base + 1) (base + code.length + 2) :: code ++ [.jump base]
          else if least = 1 && most = none then
            let code ← compile body hard base
            return code ++ [.choose greedy base (base + code.length + 1)]
          else
            let counter ← newSlot
            let code ← compile body hard (base + 2)
            return countCode greedy least most counter base code
      | .backReference index => return [.backReference index]
      | .groupMatched index => return [.groupMatched index]
      | .atomic body => do
        let code ← compile body false (base + 1)
        return .beginAtomic :: code ++ [.endAtomic]
      | .keepOut => return [.save 0]
      | .searchStart => return [.searchStart]
      | .conditional test yes no => do
        let testCode ← compile test hard (base + 2)
        let yesBase := base + 2 + testCode.length + 1
        let yesCode ← compile yes hard yesBase
        let noBase := yesBase + yesCode.length + 1
        let noCode ← compile no hard noBase
        return [.beginAtomic, .fork (base + 2) noBase] ++ testCode ++ [.endAtomic] ++ yesCode ++
          [.jump (noBase + noCode.length)] ++ noCode

/-- The instructions of the parts of a sequence that follow the first `skip` ones, `count` of
them. -/
def compileMiddle :
    (skip count : Nat) → List Expression → (base : Nat) → Compiler (List Instr)
  | _, _, [], _ => return []
  | skip + 1, count, _ :: rest, base => compileMiddle skip count rest base
  | 0, 0, _ :: _, _ => return []
  | 0, count + 1, e :: rest, base => do
    let code ← compile e true base
    let rest ← compileMiddle 0 count rest (base + code.length)
    return code ++ rest

/-- The instructions of each branch of a choice; all but the last stand between a fork and a
jump. -/
def compileBranches (hard : Bool) :
    List Expression → (base : Nat) → Compiler (List (List Instr))
  | [], _ => return []
  | [e], base => return [← compile e hard base]
  | e :: rest, base => do
    let code ← compile e hard (base + 1)
    let rest ← compileBranches hard rest (base + code.length + 2)
    return code :: rest

/-- Look-behind for a choice whose branches differ in length. -/
def compileEachBehind (negated : Bool) :
    Expression → (base : Nat) → Compiler (List Instr)
  | .alternation branches, base => do
    if negated then compileAllBehind branches base
    else
      let codes ← compileAnyBehind branches base
      return choiceCode (base + choiceLength codes) base codes
  | _, _ => return []

/-- Look-behind for one of several bodies, as branches of a choice. -/
def compileAnyBehind :
    List Expression → (base : Nat) → Compiler (List (List Instr))
  | [], _ => return []
  | e :: rest, base => do
    let start := if rest.isEmpty then base else base + 1
    let slot ← newSlot
    let back ← stepBack .behind e
    let code ← compile e false (start + 1 + back.length)
    let code := lookCode false slot start (back ++ code)
    let rest ← compileAnyBehind rest (base + code.length + 2)
    return code :: rest

/-- Look-behind that none of several bodies may pass. -/
def compileAllBehind : List Expression → (base : Nat) → Compiler (List Instr)
  | [], _ => return []
  | e :: rest, base => do
    let back ← stepBack .behind e
    let code ← compile e false (base + 1 + back.length)
    let code := lookCode true 0 base (back ++ code)
    let rest ← compileAllBehind rest (base + code.length)
    return code ++ rest

end

/-- The program of a tree with the given number of groups. -/
def Program.ofExpression (e : Expression) (groupCount : Nat) :
    Except MeaningFault Program := do
  let (code, slots) ← (compile e true 1).run (2 * (groupCount + 1))
  return {
    code := (Instr.save 0 :: (code ++ [Instr.save 1, Instr.accept])).toArray
    slotCount := slots
    groupCount := groupCount + 1 }

end GrammarScan.Backtrack
