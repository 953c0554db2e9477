import GrammarScan.Backtrack.Compile
import GrammarScan.Proofs.Backtrack.Attempts
import GrammarScan.Proofs.Labels

/-!
# Programs that keep no way back

An instruction that only looks at the text goes on at one position or is stuck. A program that is
made of such instructions, and of bodies of them that must not go through, has no branch left behind
any of its parts: the branch that a negative look-around stores is either taken up or given up. So
whether an attempt matches, and where it ends, can be read off the parts one after another. An
attempt takes each instruction once at most, and goes back once at most for each body, which is all
that it needs in order not to be given up.
-/

namespace GrammarScan.Backtrack

open Regular (Slots)

/-! ## What a run comes to -/

/-- What a verdict says about the slots of a match. A run may have been given up, unless it is sure
that it was not. -/
def Verdict.Tells (sure : Prop) (slots? : Option Slots) : Verdict → Prop
  | .accepted slots => slots? = some slots
  | .failed _ _ => slots? = none
  | .aborted _ => ¬ sure
  | .reversed => False

/-- A verdict tells as much if it is surer than was asked for. -/
theorem Verdict.Tells.imp {sure sure' : Prop} {slots? : Option Slots} {verdict : Verdict}
    (h : verdict.Tells sure slots?) (himp : sure' → sure) : verdict.Tells sure' slots? := by
  cases verdict with
  | aborted cause => exact fun hsure => h (himp hsure)
  | accepted slots | failed credit table | reversed => exact h

/-- A run comes to a match with the given slots, or to none. It is sure to do so if it may take as
many steps, and go back as often. -/
def ComesTo (code : Array Instr) (text : Array Char) (origin steps backs : Nat) (s : State)
    (slots? : Option Slots) : Prop :=
  ∀ fuel credit,
    (run code text origin fuel credit s).Tells (steps ≤ fuel ∧ backs ≤ credit) slots?

/-- A run that is stuck takes up its latest branch and comes to a match from there, or to none. -/
def FallsBackTo (code : Array Instr) (text : Array Char) (origin steps backs : Nat) (s : State)
    (slots? : Option Slots) : Prop :=
  match s.trail.pop? with
  | none => slots? = none
  | some (b, trail) =>
    ∃ others, backs = others + 1 ∧
      ComesTo code text origin steps others (s.takeUp b trail) slots?

section Steps

variable {code : Array Instr} {text : Array Char} {origin steps backs : Nat} {s s' : State}
  {slots? : Option Slots} {instr : Instr}

/-- A run that may take more steps is as sure. -/
theorem ComesTo.mono (h : ComesTo code text origin steps backs s slots?) {steps' backs' : Nat}
    (hsteps : steps ≤ steps') (hbacks : backs ≤ backs') :
    ComesTo code text origin steps' backs' s slots? :=
  fun fuel credit => (h fuel credit).imp fun henough =>
    ⟨Nat.le_trans hsteps henough.1, Nat.le_trans hbacks henough.2⟩

/-- A step onward. -/
theorem ComesTo.onward (h : ComesTo code text origin steps backs s' slots?)
    (hinstr : code[s.address]? = some instr) (hstep : step text origin s instr = .onward s') :
    ComesTo code text origin (steps + 1) backs s slots? := by
  intro fuel credit
  cases fuel with
  | zero => exact fun henough => absurd henough.1 (Nat.not_succ_le_zero _)
  | succ fuel =>
    rw [run, hinstr, Option.getD_some, hstep]
    exact (h fuel credit).imp fun henough => ⟨Nat.le_of_succ_le_succ henough.1, henough.2⟩

/-- The last step of a match. -/
theorem comesTo_of_accepted {slots : Slots} (hinstr : code[s.address]? = some instr)
    (hstep : step text origin s instr = .accepted slots) :
    ComesTo code text origin 1 0 s (some slots) := by
  intro fuel credit
  cases fuel with
  | zero => exact fun henough => absurd henough.1 (Nat.not_succ_le_zero _)
  | succ fuel =>
    rw [run, hinstr, Option.getD_some, hstep]
    rfl

/-- A step that is stuck. -/
theorem FallsBackTo.stuck (h : FallsBackTo code text origin steps backs s' slots?)
    (hinstr : code[s.address]? = some instr) (hstep : step text origin s instr = .stuck s') :
    ComesTo code text origin (steps + 1) backs s slots? := by
  intro fuel credit
  cases fuel with
  | zero => exact fun henough => absurd henough.1 (Nat.not_succ_le_zero _)
  | succ fuel =>
    rw [run, hinstr, Option.getD_some, hstep]
    unfold FallsBackTo at h
    cases hpop : s'.trail.pop? with
    | none =>
      rw [hpop] at h
      simp only [hpop]
      exact h
    | some last =>
      rw [hpop] at h
      obtain ⟨others, rfl, hlast⟩ := h
      cases credit with
      | zero =>
        simp only [hpop]
        exact fun henough => absurd henough.2 (Nat.not_succ_le_zero _)
      | succ credit =>
        simp only [hpop]
        exact (hlast fuel credit).imp fun henough =>
          ⟨Nat.le_of_succ_le_succ henough.1, Nat.le_of_succ_le_succ henough.2⟩

/-- Without a branch there is no match. -/
theorem fallsBackTo_none (htrail : s.trail = .empty) :
    FallsBackTo code text origin steps backs s none := by
  rw [FallsBackTo, htrail]
  rfl

end Steps

namespace Trail

/-- A branch that goes on at an address is the latest to do so when it was stored. -/
theorem before_push (t : Trail) (b : Branch) : (t.push b).before b.address = t := by
  simp [before, push, drop]

end Trail

/-! ## Checks -/

/-- An instruction that only looks at the text. -/
inductive Probe where
  | literal (word : List Char)
  | goBack (count : Nat)
  | plain (program : Regular.Program)
  | assertion (condition : Assertion)
  | searchStart

namespace Probe

/-- The instruction of a probe. -/
def instr : Probe → Instr
  | .literal word => .literal word
  | .goBack count => .goBack count
  | .plain program => .plain program none
  | .assertion condition => .assertion condition
  | .searchStart => .searchStart

/-- Where a probe goes on from a position, if it does. -/
def stop? (text : Array Char) (origin position : Nat) : Probe → Option Nat
  | .literal word => if standsAt text position word then some (position + word.length) else none
  | .goBack count => if count ≤ position then some (position - count) else none
  | .plain program => (program.matchAt? text position).map (·.stop)
  | .assertion condition => if condition.holds text position then some position else none
  | .searchStart => if position ≤ origin then some position else none

/-- A step of a probe. -/
theorem step_eq (probe : Probe) (text : Array Char) (origin : Nat) (s : State) :
    step text origin s probe.instr =
      match probe.stop? text origin s.position with
      | some stop => s.nextAt stop
      | none => .stuck s := by
  cases probe with
  | literal word =>
    simp only [instr, step, stop?]
    split <;> rfl
  | goBack count =>
    simp only [instr, step, stop?]
    split <;> rfl
  | plain program =>
    simp only [instr, step, stop?]
    cases program.matchAt? text s.position <;> rfl
  | assertion condition =>
    simp only [instr, step, stop?, State.nextIf]
    split <;> rfl
  | searchStart =>
    simp only [instr, step, stop?, State.nextIf, decide_eq_true_eq]
    split <;> rfl

end Probe

/-- Where probes one after another go on from a position, if all of them do. -/
def probesStop? (text : Array Char) (origin : Nat) (probes : List Probe) (position : Nat) :
    Option Nat :=
  probes.foldlM (fun position probe => probe.stop? text origin position) position

/-- A part of a program that keeps no way back: a probe, or probes that must not all go on. -/
inductive Check where
  | pass (probe : Probe)
  | deny (body : List Probe)

namespace Check

/-- The instructions of a check at an address. -/
def code (base : Nat) : Check → List Instr
  | .pass probe => [probe.instr]
  | .deny body => lookCode true 0 base (body.map Probe.instr)

/-- Where a check goes on from a position, if it does. -/
def stop? (text : Array Char) (origin position : Nat) : Check → Option Nat
  | .pass probe => probe.stop? text origin position
  | .deny body => if (probesStop? text origin body position).isNone then some position else none

/-- How often a check makes a run go back. -/
def backs : Check → Nat
  | .pass _ => 0
  | .deny _ => 1

end Check

/-- The instructions of checks one after another. -/
def checksCode : (base : Nat) → List Check → List Instr
  | _, [] => []
  | base, check :: rest => check.code base ++ checksCode (base + (check.code base).length) rest

/-- Where checks one after another go on from a position, if all of them do. -/
def checksStop? (text : Array Char) (origin : Nat) (checks : List Check) (position : Nat) :
    Option Nat :=
  checks.foldlM (fun position check => check.stop? text origin position) position

/-- Checks go on where the first of them does and the others do from there. -/
theorem checksStop?_cons (text : Array Char) (origin : Nat) (check : Check) (checks : List Check)
    (position : Nat) : checksStop? text origin (check :: checks) position =
      (check.stop? text origin position).bind (checksStop? text origin checks) := rfl

/-- A single check goes on by itself. -/
theorem checksStop?_singleton (text : Array Char) (origin : Nat) (check : Check) (position : Nat) :
    checksStop? text origin [check] position = check.stop? text origin position := bind_pure _

/-- Checks behind others go on from where these do. -/
theorem checksStop?_append (text : Array Char) (origin : Nat) (checks checks' : List Check)
    (position : Nat) : checksStop? text origin (checks ++ checks') position =
      (checksStop? text origin checks position).bind (checksStop? text origin checks') :=
  List.foldlM_append

/-- How often checks make a run go back. -/
def checksBacks : List Check → Nat
  | [] => 0
  | check :: rest => checksBacks rest + check.backs

section Checks

variable {code : Array Instr} {text : Array Char} {origin steps backs : Nat} {s : State}
  {slots? : Option Slots}

/-- The run at another address and position. -/
def State.at (s : State) (address position : Nat) : State :=
  { s with address := address, position := position }

/-- A run passes probes to where they go on, and is stuck where one of them does not. -/
theorem comesTo_probes {probes : List Probe}
    (hcode : CodeAt code s.address (probes.map Probe.instr))
    (honward : ∀ stop, probesStop? text origin probes s.position = some stop →
      ComesTo code text origin steps backs (s.at (s.address + probes.length) stop) slots?)
    (hstuck : probesStop? text origin probes s.position = none →
      FallsBackTo code text origin steps backs s slots?) :
    ComesTo code text origin (probes.length + steps) backs s slots? := by
  induction probes generalizing s with
  | nil =>
    rw [List.length_nil, Nat.zero_add]
    exact honward s.position rfl
  | cons probe probes ih =>
    have hinstr := hcode.head
    have hstep := probe.step_eq text origin s
    rw [List.length_cons, Nat.add_right_comm]
    simp only [probesStop?, List.foldlM_cons] at honward hstuck
    cases hstop : probe.stop? text origin s.position with
    | none =>
      rw [hstop] at hstep hstuck
      exact ((hstuck rfl).stuck hinstr hstep).mono (by omega) (Nat.le_refl _)
    | some stop =>
      rw [hstop] at hstep honward hstuck
      refine ComesTo.onward ?_ hinstr hstep
      refine ih (s := s.at (s.address + 1) stop) hcode.tail ?_ hstuck
      intro last hlast
      have hnext := honward last hlast
      rwa [List.length_cons, Nat.add_comm probes.length 1, ← Nat.add_assoc] at hnext

/-- A run passes a body that must not go through just if one of its probes does not go on, and comes
to nothing otherwise. It goes back once for it. -/
theorem comesTo_deny {body : List Probe} (htrail : s.trail = .empty)
    (hcode : CodeAt code s.address ((Check.deny body).code s.address))
    (honward : probesStop? text origin body s.position = none → ComesTo code text origin steps backs
      (s.at (s.address + body.length + 2) s.position) slots?)
    (hstuck : probesStop? text origin body s.position ≠ none → slots? = none) :
    ComesTo code text origin (body.length + 2 + steps) (backs + 1) s slots? := by
  let leave : Branch := ⟨s.address + body.length + 2, s.position, s.slots, s.marks⟩
  let inside : State := { s with address := s.address + 1, trail := s.trail.push leave }
  have hlook : CodeAt code s.address
      (.fork (s.address + 1) leave.address :: (body.map Probe.instr ++ [.refute])) := by
    simpa [Check.code, lookCode] using hcode
  have hstep : step text origin s (.fork (s.address + 1) leave.address) = .onward inside := by
    have hroom : ¬ branchLimit ≤ s.trail.size := by
      rw [htrail]
      decide
    rw [step, State.fork, if_neg hroom]
  have hinside :
      ComesTo code text origin (body.length + (steps + 1)) (backs + 1) inside slots? := by
    refine comesTo_probes hlook.tail.left (fun stop hstop => ?_) fun hnone => ?_
    · -- The body went through: its branch is given up, and there is no other one.
      obtain rfl := hstuck (by rw [hstop]; exact Option.some_ne_none stop)
      have hrefute : code[(inside.at (inside.address + body.length) stop).address]? =
          some .refute := by
        have hbehind := hlook.tail.right.head
        rwa [List.length_map] at hbehind
      refine FallsBackTo.stuck (fallsBackTo_none ?_) hrefute rfl
      have hleave : inside.address + body.length + 1 = leave.address :=
        congrArg (· + 1) (Nat.add_right_comm s.address 1 body.length)
      change inside.trail.before (inside.address + body.length + 1) = Trail.empty
      rw [hleave, Trail.before_push, htrail]
    · exact ⟨backs, rfl, (honward hnone).mono (Nat.le_succ _) (Nat.le_refl _)⟩
  exact (hinside.onward hlook.head hstep).mono (by omega) (Nat.le_refl _)

/-- A run without a way back passes a check to where it goes on, and comes to nothing otherwise. -/
theorem comesTo_check {check : Check} (htrail : s.trail = .empty)
    (hcode : CodeAt code s.address (check.code s.address))
    (honward : ∀ stop, check.stop? text origin s.position = some stop → ComesTo code text origin
      steps backs (s.at (s.address + (check.code s.address).length) stop) slots?)
    (hstuck : check.stop? text origin s.position = none → slots? = none) :
    ComesTo code text origin ((check.code s.address).length + steps) (backs + check.backs) s
      slots? := by
  cases check with
  | pass probe =>
    have hprobe : CodeAt code s.address ([probe].map Probe.instr) := hcode
    have hprobes : probesStop? text origin [probe] s.position =
        probe.stop? text origin s.position := by
      rw [probesStop?, List.foldlM_cons]
      exact bind_pure _
    refine comesTo_probes hprobe (fun stop hstop => ?_) fun hnone => ?_
    · exact honward stop (hprobes.symm.trans hstop)
    · obtain rfl := hstuck (hprobes.symm.trans hnone)
      exact fallsBackTo_none htrail
  | deny body =>
    have hlength : ((Check.deny body).code s.address).length = body.length + 2 := by
      simp [Check.code, lookCode]
    rw [hlength] at honward ⊢
    refine comesTo_deny htrail hcode (fun hnone => ?_) fun hgoes => ?_
    · exact honward s.position (by rw [Check.stop?, hnone]; rfl)
    · refine hstuck ?_
      obtain ⟨stop, hstop⟩ := Option.ne_none_iff_exists'.mp hgoes
      rw [Check.stop?, hstop]
      rfl

/-- A run without a way back passes checks to where they go on, and comes to nothing where one of
them does not. -/
theorem comesTo_checks {checks : List Check} (htrail : s.trail = .empty)
    (hcode : CodeAt code s.address (checksCode s.address checks))
    (honward : ∀ stop, checksStop? text origin checks s.position = some stop →
      ComesTo code text origin steps backs
        (s.at (s.address + (checksCode s.address checks).length) stop) slots?)
    (hstuck : checksStop? text origin checks s.position = none → slots? = none) :
    ComesTo code text origin ((checksCode s.address checks).length + steps)
      (backs + checksBacks checks) s slots? := by
  induction checks generalizing s with
  | nil =>
    simp only [checksCode, List.length_nil, Nat.zero_add]
    exact honward s.position rfl
  | cons check checks ih =>
    rw [checksCode] at hcode
    simp only [checksStop?, List.foldlM_cons] at honward hstuck
    rw [checksCode, checksBacks, List.length_append, Nat.add_assoc, ← Nat.add_assoc backs]
    refine comesTo_check htrail hcode.left (fun stop hstop => ?_) fun hnone => ?_
    · rw [hstop] at honward hstuck
      refine ih (s := s.at _ stop) htrail hcode.right (fun last hlast => ?_) hstuck
      have hnext := honward last hlast
      rwa [checksCode, List.length_append, ← Nat.add_assoc] at hnext
    · exact hstuck (by rw [hnone]; rfl)

end Checks

/-! ## Attempts and searches -/

namespace Program

variable {p : Program} {checks : List Check} {text : Array Char}

/-- A match that was made to start behind its end is empty. -/
theorem capStart_pair (start stop : Nat) :
    capStart #[some start, some stop] = #[some (min start stop), some stop] := by
  change (if stop < start then #[some stop, some stop] else #[some start, some stop]) = _
  split
  · next h => rw [Nat.min_eq_right (Nat.le_of_lt h)]
  · next h => rw [Nat.min_eq_left (Nat.le_of_not_lt h)]

/-- The program of checks: its start is saved in front of them and its end behind. -/
structure IsChecks (p : Program) (checks : List Check) : Prop where
  code_eq : p.code = (Instr.save 0 :: (checksCode 1 checks ++ [.save 1, .accept])).toArray
  slotCount_eq : p.slotCount = 2
  groupCount_eq : p.groupCount = 1

/-- An attempt at checks comes to a match if they all go on. It is sure to do so if it may go back
once for each body that must not go through, and if the program is not beyond all bounds. -/
theorem IsChecks.attempt_tells (h : p.IsChecks checks) (text : Array Char)
    (origin credit position : Nat) (table : Slots) :
    (p.attempt text origin credit position table).Tells
      (p.code.size ≤ runFuel ∧ checksBacks checks ≤ credit)
      ((checksStop? text origin checks position).map fun stop =>
        #[some (min position stop), some stop]) := by
  let start : State :=
    ⟨0, position, .replicate p.slotCount none, [], .empty, table⟩
  let begun : State := ⟨1, position, #[some position, none], [], .empty, table⟩
  have hcode : CodeAt p.code start.address
      (.save 0 :: (checksCode 1 checks ++ [.save 1, .accept])) := by
    rw [h.code_eq]
    exact List.prefix_rfl
  have hbegin : step text origin start (.save 0) = .onward begun := by
    simp only [start, h.slotCount_eq]
    rfl
  have hchecks : ComesTo p.code text origin ((checksCode 1 checks).length + 2)
      (0 + checksBacks checks) begun ((checksStop? text origin checks position).map fun stop =>
        #[some (min position stop), some stop]) := by
    refine comesTo_checks rfl hcode.tail.left (fun stop hstop => ?_) fun hnone => ?_
    · have hfinish := hcode.tail.right
      rw [hstop, Option.map_some, ← capStart_pair]
      exact (comesTo_of_accepted hfinish.tail.head rfl).onward hfinish.head rfl
    · rw [hnone]
      rfl
  have hsize : p.code.size = (checksCode 1 checks).length + 2 + 1 := by
    simp [h.code_eq]
  have hrun := hchecks.onward hcode.head hbegin
  rw [← hsize, Nat.zero_add] at hrun
  exact hrun runFuel credit

/-- A row of attempts comes to the first match that one of them comes to. -/
theorem searchFrom_tells {origin tries credit position : Nat} {table : Slots}
    {slots? : Nat → Option Slots} (h : ∀ skipped < tries, ∀ credit table,
      (p.attempt text origin credit (position + skipped) table).Tells False
        (slots? (position + skipped))) :
    (p.searchFrom text origin tries credit position table).Tells False
      ((List.range' position tries).findSome? slots?) := by
  induction tries generalizing credit position table with
  | zero => rfl
  | succ tries ih =>
    have hhere := h 0 (Nat.succ_pos tries) credit table
    rw [Nat.add_zero] at hhere
    rw [List.range'_succ, List.findSome?_cons]
    cases hattempt : p.attempt text origin credit position table with
    | accepted slots =>
      rw [hattempt] at hhere
      rw [searchFrom_of_accepted hattempt, show slots? position = some slots from hhere]
      rfl
    | failed left table' =>
      rw [hattempt] at hhere
      rw [show slots? position = none from hhere]
      cases left with
      | zero =>
        rw [searchFrom, hattempt]
        exact not_false
      | succ left =>
        rw [searchFrom_of_failed hattempt]
        refine ih fun skipped hskipped credit table => ?_
        have hnext := h (skipped + 1) (Nat.succ_lt_succ hskipped) credit table
        rwa [Nat.add_comm skipped 1, ← Nat.add_assoc] at hnext
    | aborted cause =>
      rw [searchFrom, hattempt]
      exact not_false
    | reversed =>
      rw [hattempt] at hhere
      exact hhere.elim

end Program

end GrammarScan.Backtrack
