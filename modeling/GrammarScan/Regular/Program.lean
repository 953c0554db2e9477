import GrammarScan.Regular.Tree

/-!
# Programs of plain expressions

A plain expression is turned into a list of instructions that ends in acceptance. Instructions are
addressed by their place in the list; one that is no jump is followed by the next. A fork names the
way that is preferred first. Repetition is written out: as many copies as have to match, then a
loop or nested options for the rest. A program can be entered so that a match begins right there or
so that it may begin anywhere behind.
-/

namespace GrammarScan.Regular

/-- An instruction. -/
inductive Instr where
  | char (c : Char)
  | set (s : CharSet)
  | place (condition : Place)
  | save (slot : Nat)
  | fork (first second : Nat)
  | jump (target : Nat)
  | accept
  deriving Inhabited, Repr

/-- A fork between going on and leaving, in the order that greediness asks for. -/
def Instr.choose (greedy : Bool) (onward leave : Nat) : Instr :=
  if greedy then .fork onward leave else .fork leave onward

mutual

/-- The number of instructions of an expression. -/
def codeSize : Regular → Nat
  | .empty => 0
  | .place _ => 1
  | .literal text => text.length
  | .set _ _ => 1
  | .group _ body => codeSize body + 2
  | .iteration 0 none _ body => codeSize body + 2
  | .iteration (least + 1) none _ body => (least + 1) * codeSize body + 1
  | .iteration least (some most) _ body =>
    least * codeSize body + (most - least) * (codeSize body + 1)
  | .concat parts => codeSizeSum parts
  | .alternation branches => codeSizeChoice branches

/-- The number of instructions of a sequence. -/
def codeSizeSum : List Regular → Nat
  | [] => 0
  | part :: rest => codeSize part + codeSizeSum rest

/-- The number of instructions of a choice. -/
def codeSizeChoice : List Regular → Nat
  | [] => 1
  | [branch] => codeSize branch
  | branch :: rest => codeSize branch + 2 + codeSizeChoice rest

end

/-- Copies of code that depends on its address, one after another. -/
def copies (code : Nat → List Instr) (size count base : Nat) : List Instr :=
  (List.range count).flatMap fun i => code (base + i * size)

/-- Nested options: each copy of the code is entered or all the rest is left. -/
def options (code : Nat → List Instr) (size : Nat) (greedy : Bool) (count base : Nat) :
    List Instr :=
  let leave := base + count * (size + 1)
  (List.range count).flatMap fun i =>
    let here := base + i * (size + 1)
    .choose greedy (here + 1) leave :: code (here + 1)

mutual

/-- The instructions of an expression that begins at address `base`. -/
def code : Regular → (base : Nat) → List Instr
  | .empty, _ => []
  | .place condition, _ => [.place condition]
  | .literal text, _ => text.map .char
  | .set s _, _ => [.set s]
  | .group index body, base =>
    .save (2 * index) :: code body (base + 1) ++ [.save (2 * index + 1)]
  | .iteration 0 none greedy body, base =>
    let leave := base + codeSize body + 2
    if alwaysConsumes body then
      .choose greedy (base + 1) leave :: code body (base + 1) ++ [.jump base]
    else
      .choose greedy (base + 1) leave :: code body (base + 1) ++ [.choose greedy (base + 1) leave]
  | .iteration (least + 1) none greedy body, base =>
    let last := base + least * codeSize body
    copies (code body) (codeSize body) least base ++ code body last ++
      [.choose greedy last (last + codeSize body + 1)]
  | .iteration least (some most) greedy body, base =>
    copies (code body) (codeSize body) least base ++
      options (code body) (codeSize body) greedy (most - least) (base + least * codeSize body)
  | .concat parts, base => codeSeq parts base
  | .alternation branches, base => codeChoice branches base (base + codeSizeChoice branches)

/-- The instructions of a sequence. -/
def codeSeq : List Regular → (base : Nat) → List Instr
  | [], _ => []
  | part :: rest, base => code part base ++ codeSeq rest (base + codeSize part)

/-- The instructions of a choice that goes on at address `leave`. A choice between no branches
matches nothing. -/
def codeChoice : List Regular → (base leave : Nat) → List Instr
  | [], _, _ => [.set .empty]
  | [branch], base, _ => code branch base
  | branch :: rest, base, leave =>
    let next := base + codeSize branch + 2
    .fork (base + 1) next :: code branch (base + 1) ++ .jump leave :: codeChoice rest next leave

end

/-- What stands in front of every program: a lazy loop over any characters, by which a match can
begin anywhere, and the slot where it begins. -/
def lead : List Instr := [.fork 3 1, .set .all, .jump 0, .save 0]

/-- Where a program is entered for a match that begins anywhere. -/
def anywhere : Nat := 0

/-- Where a program is entered for a match that begins right there. -/
def here : Nat := 3

/-- Whether an instruction leaves no choice. -/
def Instr.isStraight : Instr → Bool
  | .fork _ _ | .jump _ => false
  | .char _ | .set _ | .place _ | .save _ | .accept => true

/-- A program. Groups may have been lost with parts that are repeated no times, so besides the
number of its groups it has a bound on their numbers, up to which its matches tell about them. A
straight program has no choices. -/
structure Program where
  code : Array Instr
  groupBound : Nat
  groupCount : Nat
  isStraight : Bool
  deriving Inhabited, Repr

/-- The program of an expression. -/
def Program.ofRegular (r : Regular) : Program :=
  let body := Regular.code r lead.length
  { code := (lead ++ body ++ [Instr.accept]).toArray
    groupBound := max r.groupBound 1
    groupCount := r.groupCount
    isStraight := body.all Instr.isStraight }

end GrammarScan.Regular
