import GrammarScan.Backtrack.Search

/-!
# Where an attempt says it starts

The first instruction of a program saves the start of the attempt. If nothing else saves in that
slot and no way leads back to the first instruction, a match starts no later than its attempt. It
can only be moved forward to the end of the match, if look-behind has left that before the start.
-/

namespace GrammarScan.Backtrack

open Regular (Slots)

/-- Whether an instruction saves in the slot of the start, or leads to the first instruction. -/
def Instr.meddles : Instr → Bool
  | .save slot | .clear slot => slot = 0
  | .fork first second => first = 0 || second = 0
  | .jump target => target = 0
  | .count _ _ _ leave counter => leave = 0 || counter = 0
  | .loop _ _ leave counter check => leave = 0 || counter = 0 || check = 0
  | _ => false

/-- Slots in which the start, if it was saved, lies no later than the given position. -/
def StartsBy (start : Nat) (slots : Slots) : Prop :=
  ∀ saved, (slots[0]?).join = some saved → saved ≤ start

/-- A state that has left the first instruction behind, in itself and in its branches. -/
structure State.Begun (start : Nat) (s : State) : Prop where
  address : s.address ≠ 0
  slots : StartsBy start s.slots
  branches : ∀ b ∈ s.trail.branches, b.address ≠ 0 ∧ StartsBy start b.slots

/-- A step from which the start is known to lie no later. -/
def Step.Begun (start : Nat) : Step → Prop
  | .onward s | .stuck s => s.Begun start
  | .accepted slots => StartsBy start slots
  | .overfull | .reversed => True

section Steps

variable {start : Nat} {s : State} {slots : Slots}

/-- Saving elsewhere keeps the start. -/
theorem StartsBy.setIfInBounds (h : StartsBy start slots) {slot : Nat} (hslot : slot ≠ 0)
    (value : Option Nat) : StartsBy start (slots.setIfInBounds slot value) := by
  intro saved hsaved
  rw [Array.getElem?_setIfInBounds_ne hslot] at hsaved
  exact h saved hsaved

/-- The groups of a plain part lie behind the slots of the overall match. -/
theorem StartsBy.readGroups (h : StartsBy start slots) (groups : PlainGroups) (table : Slots) :
    StartsBy start (readGroups groups table slots) := by
  unfold Backtrack.readGroups
  generalize List.range (2 * groups.count) = indices
  induction indices generalizing slots with
  | nil => exact h
  | cons i indices ih => exact ih (h.setIfInBounds (by omega) _)

/-- A match that is made empty starts no later. -/
theorem StartsBy.capStart (h : StartsBy start slots) : StartsBy start (capStart slots) := by
  unfold Backtrack.capStart
  split
  · next first stop hfirst hstop =>
    split
    · next hlt =>
      intro saved hsaved
      rw [Array.getElem?_setIfInBounds] at hsaved
      have hle := h first hfirst
      by_cases hsize : 0 < slots.size
      · simp only [if_true, hsize, Option.join_some, Option.some.injEq] at hsaved
        omega
      · simp [hsize] at hsaved
    · exact h
  · exact h

/-- Moving on keeps the start. -/
theorem State.Begun.next (h : s.Begun start) : s.next.Begun start :=
  ⟨Nat.succ_ne_zero _, h.slots, h.branches⟩

/-- Going on elsewhere keeps the start. -/
theorem State.Begun.nextAt (h : s.Begun start) (position : Nat) :
    (s.nextAt position).Begun start :=
  ⟨Nat.succ_ne_zero _, h.slots, h.branches⟩

/-- Saving in a slot behind the first keeps the start. -/
theorem State.Begun.set (h : s.Begun start) {slot : Nat} (hslot : slot ≠ 0) (value : Nat) :
    (s.set slot value).Begun start :=
  ⟨h.address, h.slots.setIfInBounds hslot _, h.branches⟩

/-- Forking keeps the start on both ways. -/
theorem State.Begun.fork (h : s.Begun start) {first second : Nat} (hfirst : first ≠ 0)
    (hsecond : second ≠ 0) : (s.fork first second).Begun start := by
  unfold State.fork
  split
  · trivial
  · exact ⟨hfirst, h.slots, List.forall_mem_cons.mpr ⟨⟨hsecond, h.slots⟩, h.branches⟩⟩

/-- A fork behind the first address keeps the start. -/
theorem State.Begun.forkLeave (h : s.Begun start) (greedy : Bool) {leave : Nat}
    (hleave : leave ≠ 0) : (s.forkLeave greedy leave).Begun start := by
  unfold State.forkLeave
  split
  · exact h.fork (Nat.succ_ne_zero _) hleave
  · exact h.fork hleave (Nat.succ_ne_zero _)

/-- Dropping branches keeps the start in the others. -/
theorem State.Begun.drop (h : s.Begun start) (count : Nat) :
    ({ s with trail := s.trail.drop count } : State).Begun start :=
  ⟨h.address, h.slots, fun b hb => h.branches b (List.mem_of_mem_drop hb)⟩

/-- A step of an instruction that does not meddle keeps the start. -/
theorem State.Begun.step (h : s.Begun start) (text : Array Char) (origin : Nat) {instr : Instr}
    (hinstr : instr.meddles = false) : (step text origin s instr).Begun start := by
  cases instr with
  | accept => exact h.slots.capStart
  | anyChar =>
    rw [Backtrack.step]
    split
    · exact h.nextAt _
    · exact h
  | anyButLineFeed =>
    rw [Backtrack.step]
    split
    · exact h.nextAt _
    · exact h
  | assertion condition =>
    rw [Backtrack.step, State.nextIf]
    split
    · exact h.next
    · exact h
  | literal word =>
    rw [Backtrack.step]
    split
    · exact h.nextAt _
    · exact h
  | fork first second =>
    simp only [Instr.meddles, Bool.or_eq_false_iff, decide_eq_false_iff_not] at hinstr
    exact h.fork hinstr.1 hinstr.2
  | jump target =>
    simp only [Instr.meddles, decide_eq_false_iff_not] at hinstr
    exact ⟨hinstr, h.slots, h.branches⟩
  | save slot =>
    simp only [Instr.meddles, decide_eq_false_iff_not] at hinstr
    exact (h.set hinstr _).next
  | clear slot =>
    simp only [Instr.meddles, decide_eq_false_iff_not] at hinstr
    exact (h.set hinstr _).next
  | restore slot => exact h.nextAt _
  | count greedy least most leave counter =>
    simp only [Instr.meddles, Bool.or_eq_false_iff, decide_eq_false_iff_not] at hinstr
    rw [Backtrack.step]
    split
    · exact ⟨hinstr.1, h.slots, h.branches⟩
    · dsimp only
      split
      · exact (h.set hinstr.2 _).forkLeave greedy hinstr.1
      · exact (h.set hinstr.2 _).next
  | loop greedy least leave counter check =>
    simp only [Instr.meddles, Bool.or_eq_false_iff, decide_eq_false_iff_not] at hinstr
    obtain ⟨⟨hleave, hcounter⟩, hcheck⟩ := hinstr
    rw [Backtrack.step]
    dsimp only
    split
    · exact h
    · split
      · exact ((h.set hcounter _).set hcheck _).forkLeave greedy hleave
      · exact (h.set hcounter _).next
  | refute => exact h.drop _
  | goBack count =>
    rw [Backtrack.step]
    split
    · exact h.nextAt _
    · exact h
  | backReference group =>
    rw [Backtrack.step]
    split
    · split
      · trivial
      · dsimp only
        split
        · exact h.nextAt _
        · exact h
    · exact h
  | groupMatched group =>
    rw [Backtrack.step, State.nextIf]
    split
    · exact h.next
    · exact h
  | beginAtomic => exact ⟨Nat.succ_ne_zero _, h.slots, h.branches⟩
  | endAtomic =>
    rw [Backtrack.step]
    split
    · exact h.next
    · next count marks _ =>
      have hcut := h.drop (s.trail.size - count)
      exact ⟨Nat.succ_ne_zero _, hcut.slots, hcut.branches⟩
  | plain program groups =>
    cases groups with
    | none =>
      rw [Backtrack.step]
      split
      · exact h.nextAt _
      · exact h
    | some groups =>
      rw [Backtrack.step, runGroups]
      dsimp only
      split
      · exact ⟨Nat.succ_ne_zero _, h.slots.readGroups groups _, h.branches⟩
      · exact ⟨h.address, h.slots, h.branches⟩
  | searchStart =>
    rw [Backtrack.step, State.nextIf]
    split
    · exact h.next
    · exact h

/-- Taking up a branch keeps the start. -/
theorem State.Begun.takeUp (h : s.Begun start) {b : Branch} {trail : Trail}
    (hpop : s.trail.pop? = some (b, trail)) : (s.takeUp b trail).Begun start := by
  unfold Trail.pop? at hpop
  split at hpop
  · simp at hpop
  · next first rest hbranches =>
    obtain ⟨rfl, rfl⟩ := Prod.mk.inj (Option.some.inj hpop)
    have hall := h.branches
    rw [hbranches, List.forall_mem_cons] at hall
    exact ⟨hall.1.1, hall.1.2, hall.2⟩

end Steps

/-! ## Runs -/

/-- A program that saves the start first and leaves it alone behind. -/
structure Program.KeepsStart (p : Program) : Prop where
  first : p.code[0]? = some (.save 0)
  others : ∀ (a : Nat) (instr : Instr), p.code[a + 1]? = some instr → instr.meddles = false

variable {p : Program} {text : Array Char} {start : Nat}

/-- A run that has begun accepts with a start that lies no later. -/
theorem Program.KeepsStart.run (h : p.KeepsStart) {origin fuel credit : Nat} {s : State}
    {slots : Slots} (hs : s.Begun start)
    (haccepted : run p.code text origin fuel credit s = .accepted slots) :
    StartsBy start slots := by
  induction fuel generalizing credit s with
  | zero => simp [Backtrack.run] at haccepted
  | succ fuel ih =>
    have hinstr : (p.code[s.address]?.getD .accept).meddles = false := by
      cases hcode : p.code[s.address]? with
      | none => rfl
      | some instr =>
        obtain ⟨a, ha⟩ := Nat.exists_eq_succ_of_ne_zero hs.address
        rw [ha] at hcode
        exact h.others a instr hcode
    have hstep := hs.step text origin hinstr
    rw [Backtrack.run] at haccepted
    cases hnext : step text origin s (p.code[s.address]?.getD .accept) with
    | onward s' =>
      rw [hnext] at haccepted hstep
      exact ih hstep haccepted
    | accepted slots' =>
      rw [hnext] at haccepted hstep
      obtain rfl := Verdict.accepted.inj haccepted
      exact hstep
    | overfull => simp [hnext] at haccepted
    | reversed => simp [hnext] at haccepted
    | stuck s' =>
      rw [hnext] at haccepted hstep
      cases hpop : s'.trail.pop? with
      | none => simp [hpop] at haccepted
      | some last =>
        cases credit with
        | zero => simp [hpop] at haccepted
        | succ credit => exact ih (hstep.takeUp hpop) (by simpa [hpop] using haccepted)

/-- A match starts no later than its attempt. -/
theorem Program.KeepsStart.attempt (h : p.KeepsStart) {origin credit : Nat} {table slots : Slots}
    (haccepted : p.attempt text origin credit start table = .accepted slots) :
    StartsBy start slots := by
  have hfuel : runFuel = (UInt64.size / 4 - 1) + 1 := rfl
  rw [Program.attempt, hfuel, Backtrack.run, h.first] at haccepted
  refine h.run ⟨Nat.succ_ne_zero 0, ?_, fun b hb => absurd hb List.not_mem_nil⟩ haccepted
  intro saved hsaved
  simp only [State.set, Array.getElem?_setIfInBounds, if_true] at hsaved
  split at hsaved
  · exact Nat.le_of_eq (Option.some.inj hsaved).symm
  · contradiction

end GrammarScan.Backtrack
