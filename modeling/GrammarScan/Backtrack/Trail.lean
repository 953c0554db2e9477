import GrammarScan.Regular.Search

/-!
# Ways back

A run stores a branch for every way that it could have gone as well, with all that it held at that
point. Branches are taken up again from the latest on, given up down to a count when an atomic part
is left, and given up down to the one that a negative look-around stored when its body matched.
-/

namespace GrammarScan.Backtrack

open Regular (Slots)

/-- A way that was not taken: where it goes on, and what the run held. The marks are the numbers of
branches that were there when the atomic parts around it began, the innermost first. -/
structure Branch where
  address : Nat
  position : Nat
  slots : Slots
  marks : List Nat
  deriving Inhabited, Repr

/-- The branches of a run, the latest first, with their number. -/
structure Trail where
  branches : List Branch
  size : Nat
  size_eq : size = branches.length := by simp

namespace Trail

/-- The trail at the start of a run. -/
def empty : Trail where
  branches := []
  size := 0

/-- The trail with one more branch. -/
def push (t : Trail) (b : Branch) : Trail where
  branches := b :: t.branches
  size := t.size + 1
  size_eq := by simp [t.size_eq]

/-- The latest branch and the trail before it. -/
def pop? (t : Trail) : Option (Branch × Trail) :=
  match h : t.branches with
  | [] => none
  | b :: rest => some (b, ⟨rest, t.size - 1, by simp [t.size_eq, h]⟩)

/-- The trail without its latest branches. -/
def drop (t : Trail) (count : Nat) : Trail where
  branches := t.branches.drop count
  size := t.size - count
  size_eq := by simp [t.size_eq]

/-- The trail cut down to the given number of branches. -/
def cut (t : Trail) (count : Nat) : Trail := t.drop (t.size - count)

/-- The trail before the latest branch that goes on at an address. -/
def before (t : Trail) (address : Nat) : Trail :=
  t.drop ((t.branches.takeWhile (·.address ≠ address)).length + 1)

end Trail

end GrammarScan.Backtrack
