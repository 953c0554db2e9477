import GrammarScan.Backtrack.Search

/-!
# Attempts do not depend on each other

An attempt is handed three things by the search it belongs to: where the search began, how often it
may still go back, and the table of slots that plain parts share. An instruction sees the first only
if it asks for it, and the last only where a part that is words reads groups off it. Without such
instructions an attempt that comes to a verdict comes to the same one in every search that may go
back at least as often, and so a search finds what a search from an earlier position finds, up to
the attempt that matched.
-/

namespace GrammarScan.Backtrack

open Regular (Slots)

/-- Whether what an instruction does depends on the search around the attempt. -/
def Instr.seesSearch : Instr → Bool
  | .searchStart => true
  | .plain _ (some groups) => groups.rule.isWords
  | _ => false

/-- The state with another table. -/
def State.withTable (s : State) (table : Slots) : State := { s with table }

@[simp] theorem State.address_withTable (s : State) (table : Slots) :
    (s.withTable table).address = s.address := rfl

@[simp] theorem State.trail_withTable (s : State) (table : Slots) :
    (s.withTable table).trail = s.trail := rfl

/-- The step with another table. -/
def Step.withTable (table : Slots) : Step → Step
  | .onward s => .onward (s.withTable table)
  | .stuck s => .stuck (s.withTable table)
  | .accepted slots => .accepted slots
  | .overfull => .overfull
  | .reversed => .reversed

section Steps

variable (text : Array Char)

@[simp] theorem size_fit (size : Nat) (table : Slots) : (fit size table).size = size := by
  simp only [fit, Array.size_append, Array.take_eq_extract, Array.size_extract,
    Array.size_replicate]
  omega

/-- Behind a match of a part that is not words nothing is left of the table before. -/
theorem afterMatch_congr {rule : Regular.TableRule} (h : rule.isWords = false)
    (found : Regular.Match) {table table' : Slots} (hsize : table.size = table'.size) :
    rule.afterMatch found table = rule.afterMatch found table' := by
  simp only [Regular.TableRule.afterMatch, h, Bool.false_eq_true, if_false, hsize]

/-- An instruction that does not see the search does the same with any table and wherever the search
began. -/
theorem step_withTable {instr : Instr} (h : instr.seesSearch = false) (s : State)
    (origin origin' : Nat) (table : Slots) : ∃ table',
      step text origin' (s.withTable table) instr =
        (step text origin s instr).withTable table' := by
  cases instr with
  | plain program groups =>
    cases groups with
    | none =>
      refine ⟨table, ?_⟩
      simp only [step, State.withTable]
      cases program.matchAt? text s.position <;> rfl
    | some groups =>
      have hwords : groups.rule.isWords = false := h
      simp only [step, runGroups, State.withTable]
      cases program.matchAt? text s.position with
      | none => exact ⟨_, rfl⟩
      | some found =>
        dsimp only
        have hsame := afterMatch_congr hwords found
          ((size_fit (2 * (groups.count + 1)) table).trans (size_fit _ s.table).symm)
        rw [hsame]
        exact ⟨_, rfl⟩
  | searchStart => simp [Instr.seesSearch] at h
  | backReference group =>
    refine ⟨table, ?_⟩
    simp only [step, State.withTable, State.slot?]
    split
    · simp only [apply_ite (Step.withTable table)]
      rfl
    · rfl
  | endAtomic =>
    obtain ⟨address, position, slots, marks, trail, -⟩ := s
    refine ⟨table, ?_⟩
    cases marks with
    | nil => rfl
    | cons count marks => rfl
  | _ =>
    refine ⟨table, ?_⟩
    simp only [step, State.nextIf, State.fork, State.forkLeave, apply_ite (Step.withTable table)]
    rfl

end Steps

/-! ## Runs -/

/-- What a verdict says about the same attempt with more credit: a match stays one, and a failure
leaves as much more. -/
def Verdict.Settles (extra : Nat) : Verdict → Verdict → Prop
  | .accepted slots, v => v = .accepted slots
  | .failed credit _, v => ∃ table, v = .failed (credit + extra) table
  | .aborted _, _ | .reversed, _ => True

section Runs

variable {code : Array Instr} {text : Array Char}

/-- A run without instructions that see the search comes to the same verdict with another table and
more credit, wherever the search began. -/
theorem run_withTable (text : Array Char)
    (hcode : ∀ (a : Nat) (instr : Instr), code[a]? = some instr → instr.seesSearch = false)
    (origin origin' fuel credit extra : Nat) (s : State) (table : Slots) :
    (run code text origin fuel credit s).Settles extra
      (run code text origin' fuel (credit + extra) (s.withTable table)) := by
  induction fuel generalizing credit s table with
  | zero => trivial
  | succ fuel ih =>
    have hinstr : (code[s.address]?.getD .accept).seesSearch = false := by
      cases h : code[s.address]? with
      | none => rfl
      | some instr => exact hcode _ _ h
    obtain ⟨table', hstep⟩ := step_withTable text hinstr s origin origin' table
    rw [run, run, State.address_withTable, hstep]
    cases step text origin s (code[s.address]?.getD .accept) with
    | onward s' => exact ih credit s' table'
    | accepted slots => rfl
    | overfull => trivial
    | reversed => trivial
    | stuck s' =>
      simp only [Step.withTable, State.trail_withTable]
      cases s'.trail.pop? with
      | none => exact ⟨table', rfl⟩
      | some last =>
        cases credit with
        | zero => trivial
        | succ credit =>
          rw [Nat.add_right_comm]
          exact ih credit (s'.takeUp last.1 last.2) table'

/-- A run that fails leaves no more credit than it had. -/
theorem credit_le_of_run_eq_failed {origin fuel credit left : Nat} {s : State} {table : Slots}
    (h : run code text origin fuel credit s = .failed left table) : left ≤ credit := by
  induction fuel generalizing credit s with
  | zero => simp [run] at h
  | succ fuel ih =>
    rw [run] at h
    cases hstep : step text origin s (code[s.address]?.getD .accept) with
    | onward s' => exact ih (by simpa [hstep] using h)
    | accepted slots => simp [hstep] at h
    | overfull => simp [hstep] at h
    | reversed => simp [hstep] at h
    | stuck s' =>
      simp only [hstep] at h
      cases hpop : s'.trail.pop? with
      | none =>
        simp only [hpop, Verdict.failed.injEq] at h
        exact Nat.le_of_eq h.1.symm
      | some last =>
        cases credit with
        | zero => simp [hpop] at h
        | succ credit => exact Nat.le_succ_of_le (ih (by simpa [hpop] using h))

end Runs

/-! ## Searches -/

namespace Program

/-- A program none of whose instructions sees the search. -/
def IgnoresSearch (p : Program) : Prop :=
  ∀ (a : Nat) (instr : Instr), p.code[a]? = some instr → instr.seesSearch = false

variable {p : Program} {text : Array Char}

/-- An attempt that matches does so in every search that may go back at least as often. -/
theorem IgnoresSearch.accepted_again (h : p.IgnoresSearch)
    {origin credit position : Nat} {table slots : Slots}
    (haccepted : p.attempt text origin credit position table = .accepted slots) (origin' : Nat)
    {credit' : Nat} (hcredit : credit ≤ credit') (table' : Slots) :
    p.attempt text origin' credit' position table' = .accepted slots := by
  have hrun := run_withTable text h origin origin' runFuel credit (credit' - credit)
    ⟨0, position, .replicate p.slotCount none, [], .empty, table⟩ table'
  rw [Nat.add_sub_cancel' hcredit] at hrun
  change (p.attempt text origin credit position table).Settles _ _ at hrun
  rwa [haccepted] at hrun

/-- An attempt that fails does so in every search that may go back at least as often, and leaves as
much more credit. -/
theorem IgnoresSearch.failed_again (h : p.IgnoresSearch)
    {origin credit position left : Nat} {table table₁ : Slots}
    (hfailed : p.attempt text origin credit position table = .failed (left + 1) table₁)
    (origin' : Nat) {credit' : Nat} (hcredit : credit ≤ credit') (table' : Slots) :
    ∃ table₂, p.attempt text origin' credit' position table' =
      .failed (left + (credit' - credit) + 1) table₂ := by
  have hrun := run_withTable text h origin origin' runFuel credit (credit' - credit)
    ⟨0, position, .replicate p.slotCount none, [], .empty, table⟩ table'
  rw [Nat.add_sub_cancel' hcredit] at hrun
  change (p.attempt text origin credit position table).Settles _ _ at hrun
  rw [hfailed] at hrun
  obtain ⟨table₂, hagain⟩ := hrun
  exact ⟨table₂, by rw [Nat.add_right_comm, ← hagain]; rfl⟩

/-- A row of attempts ends with the first if that matches. -/
theorem searchFrom_of_accepted {origin credit position tries : Nat} {table slots : Slots}
    (h : p.attempt text origin credit position table = .accepted slots) :
    p.searchFrom text origin (tries + 1) credit position table = .accepted slots := by
  simp only [searchFrom, h]

/-- A row of attempts goes on behind one that fails if it may go back once more. -/
theorem searchFrom_of_failed {origin credit position tries left : Nat} {table table' : Slots}
    (h : p.attempt text origin credit position table = .failed (left + 1) table') :
    p.searchFrom text origin (tries + 1) credit position table =
      p.searchFrom text origin tries left (position + 1) table' := by
  rw [searchFrom, h]

/-- A match that a row of attempts finds is that of one of them, and every later row that reaches
that attempt and may go back at least as often finds it. -/
theorem IgnoresSearch.exists_of_accepted (h : p.IgnoresSearch)
    {origin credit position tries : Nat} {table slots : Slots}
    (haccepted : p.searchFrom text origin tries credit position table = .accepted slots) :
    ∃ count < tries,
      (∃ credit' table', p.attempt text origin credit' (position + count) table' =
        .accepted slots) ∧
      ∀ skipped ≤ count, ∀ origin' credit', credit ≤ credit' → ∀ table',
        p.searchFrom text origin' (tries - skipped) credit' (position + skipped) table' =
          .accepted slots := by
  induction tries generalizing credit position table with
  | zero => simp [searchFrom] at haccepted
  | succ tries ih =>
    cases hattempt : p.attempt text origin credit position table with
    | accepted slots' =>
      rw [searchFrom_of_accepted hattempt] at haccepted
      obtain rfl := Verdict.accepted.inj haccepted
      refine ⟨0, Nat.succ_pos _, ⟨credit, table, hattempt⟩, ?_⟩
      intro skipped hskipped origin' credit' hcredit table'
      obtain rfl := Nat.le_zero.mp hskipped
      exact searchFrom_of_accepted (h.accepted_again hattempt origin' hcredit table')
    | failed left table₁ =>
      cases left with
      | zero => simp [searchFrom, hattempt] at haccepted
      | succ left =>
        rw [searchFrom_of_failed hattempt] at haccepted
        have hleft : left + 1 ≤ credit := credit_le_of_run_eq_failed hattempt
        obtain ⟨count, hcount, ⟨credit₁, table₂, hmatch⟩, hlater⟩ := ih haccepted
        refine ⟨count + 1, Nat.succ_lt_succ hcount, ⟨credit₁, table₂, ?_⟩, ?_⟩
        · rwa [Nat.add_right_comm, Nat.add_assoc] at hmatch
        · intro skipped hskipped origin' credit' hcredit table'
          cases skipped with
          | zero =>
            obtain ⟨table₃, hagain⟩ := h.failed_again hattempt origin' hcredit table'
            rw [Nat.sub_zero, Nat.add_zero position, searchFrom_of_failed hagain]
            exact hlater 0 (Nat.zero_le _) origin' _ (Nat.le_add_right _ _) table₃
          | succ skipped =>
            have hrest := hlater skipped (Nat.le_of_succ_le_succ hskipped) origin' credit'
              (by omega) table'
            rwa [Nat.add_assoc, Nat.add_comm 1, ← Nat.succ_sub_succ] at hrest
    | aborted cause => simp [searchFrom, hattempt] at haccepted
    | reversed => simp [searchFrom, hattempt] at haccepted

/-- Where a row of attempts fails, so does every end of it that may go back at least as often. -/
theorem IgnoresSearch.exists_of_failed (h : p.IgnoresSearch)
    {origin credit position tries left : Nat} {table table' : Slots}
    (hfailed : p.searchFrom text origin tries credit position table = .failed left table')
    {skipped : Nat} (hskipped : skipped ≤ tries) (origin' : Nat) {credit' : Nat}
    (hcredit : credit ≤ credit') (table'' : Slots) :
    ∃ left' table₁, p.searchFrom text origin' (tries - skipped) credit' (position + skipped)
      table'' = .failed left' table₁ := by
  induction tries generalizing credit position table skipped credit' table'' with
  | zero =>
    obtain rfl := Nat.le_zero.mp hskipped
    exact ⟨_, _, rfl⟩
  | succ tries ih =>
    cases hattempt : p.attempt text origin credit position table with
    | accepted slots => simp [searchFrom, hattempt] at hfailed
    | failed left₁ table₁ =>
      cases left₁ with
      | zero => simp [searchFrom, hattempt] at hfailed
      | succ left₁ =>
        rw [searchFrom_of_failed hattempt] at hfailed
        have hleft : left₁ + 1 ≤ credit := credit_le_of_run_eq_failed hattempt
        cases skipped with
        | zero =>
          obtain ⟨table₂, hagain⟩ := h.failed_again hattempt origin' hcredit table''
          rw [Nat.sub_zero, Nat.add_zero position, searchFrom_of_failed hagain]
          exact ih hfailed (Nat.zero_le _) (Nat.le_add_right _ _) table₂
        | succ skipped =>
          have hrest := ih hfailed (Nat.le_of_succ_le_succ hskipped) (by omega : left₁ ≤ credit')
            table''
          rwa [Nat.add_assoc, Nat.add_comm 1, ← Nat.succ_sub_succ] at hrest
    | aborted cause => simp [searchFrom, hattempt] at hfailed
    | reversed => simp [searchFrom, hattempt] at hfailed

end Program

end GrammarScan.Backtrack
