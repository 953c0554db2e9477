import GrammarScan.Proofs.Backtrack.Checks
import GrammarScan.Proofs.Regular.RowTrees
import Mathlib.Data.List.DropRight

/-!
# Trees of checks

A character, a condition, the start of the search and a look to a side for a character leave no way
back, so each of them is compiled to a check. In a sequence of such trees the parts at both ends
that need no backtracking are handed to plain programs, a single instruction for each end or none,
and what stands between them is compiled part by part. All of this goes on where the checks of the
parts do.
-/

namespace GrammarScan

/-- A condition that is not about words is one of those that plain expressions can make. -/
theorem Assertion.exists_place {condition : Assertion} (h : condition.isAboutWords = false) :
    ∃ place, condition.place? = some place ∧
      ∀ text position, condition.holds text position = place.holds text position := by
  cases condition with
  | wordBoundary | notWordBoundary | wordStart | wordEnd => cases h
  | textStart | textEnd | lineStart | lineEnd => exact ⟨_, rfl, fun _ _ => rfl⟩

namespace Backtrack

/-! ## Trees that are compiled to checks -/

/-- A tree that is compiled to a check. The check does not lead back, and stays within the text. If
the tree needs no backtracking, it is a link of a row that goes on where the check does. -/
structure IsCheck (e : Expression) (check : Check) : Prop where
  compile_eq : ∀ base, compile e true base = pure (check.code base)
  forward : ∀ {text : Array Char} {origin position stop : Nat}, position ≤ text.size →
    check.stop? text origin position = some stop → position ≤ stop ∧ stop ≤ text.size
  link : e.isHard = false → ∃ link, Expression.IsRow [e] [link] ∧
    ∀ text origin position, check.stop? text origin position = rowStop? text [link] position

/-- A check that goes on where it is, if at all, does not lead back. -/
theorem forward_of_stays {check : Check} {text : Array Char} {origin position stop : Nat}
    {condition : Prop} [Decidable condition] (hposition : position ≤ text.size)
    (heq : check.stop? text origin position = if condition then some position else none)
    (hstop : check.stop? text origin position = some stop) :
    position ≤ stop ∧ stop ≤ text.size := by
  rw [heq, Option.ite_none_right_eq_some] at hstop
  obtain ⟨-, heq⟩ := hstop
  obtain rfl := Option.some.inj heq
  exact ⟨Nat.le_refl _, hposition⟩

/-- A text stands where the row of its characters goes through. -/
theorem stop?_literal (text : Array Char) (origin position : Nat) (word : List Char) :
    (Probe.literal word).stop? text origin position = rowStop? text (word.map .char) position := by
  induction word generalizing position with
  | nil => rfl
  | cons c word ih =>
    rw [List.map_cons, rowStop?, ← ih]
    simp only [Probe.stop?, standsAt, List.length_cons, Bool.and_eq_true, decide_eq_true_eq,
      ite_and, Nat.add_assoc, Nat.add_comm 1]

/-- A character is a check. -/
theorem isCheck_literal (c : Char) : IsCheck (.literal c false) (.pass (.literal [c])) where
  compile_eq _ := rfl
  forward {text origin position stop} _ hstop := by
    have hrow : rowStop? text [.char c] position = some stop :=
      (stop?_literal text origin position [c]).symm.trans hstop
    simp only [rowStop?, Option.ite_none_right_eq_some, Option.some.injEq] at hrow
    obtain ⟨hchar, rfl⟩ := hrow
    exact ⟨Nat.le_succ _, (Array.getElem?_eq_some_iff.mp hchar).1⟩
  link _ :=
    ⟨.char c, .char c .nil, fun text origin position => stop?_literal text origin position [c]⟩

/-- A condition is a check. -/
theorem isCheck_assertion (condition : Assertion) :
    IsCheck (.assertion condition) (.pass (.assertion condition)) where
  compile_eq _ := rfl
  forward hposition hstop := forward_of_stays hposition rfl hstop
  link heasy := by
    obtain ⟨place, hplace, hholds⟩ := Assertion.exists_place heasy
    refine ⟨.place place, .place hplace .nil, fun text origin position => ?_⟩
    rw [rowStop?, ← hholds]
    rfl

/-- The start of the search is a check. -/
theorem isCheck_searchStart : IsCheck .searchStart (.pass .searchStart) where
  compile_eq _ := rfl
  forward hposition hstop := forward_of_stays hposition rfl hstop
  link heasy := by cases heasy

/-- The probes for a character on a side of the position. -/
def probesAt (c : Char) : Side → List Probe
  | .ahead => [.literal [c]]
  | .behind => [.goBack 1, .literal [c]]

/-- That a character does not stand on a side of the position is a check. -/
theorem isCheck_lookAround (side : Side) (c : Char) :
    IsCheck (.lookAround side true (.literal c false)) (.deny (probesAt c side)) where
  compile_eq _ := by cases side <;> rfl
  forward hposition hstop := forward_of_stays hposition rfl hstop
  link heasy := by cases heasy

/-- A character does not stand behind the position. -/
theorem stop?_deny_ahead (text : Array Char) (origin q : Nat) (c : Char) :
    (Check.deny (probesAt c .ahead)).stop? text origin q =
      if text[q]? = some c then none else some q := by
  by_cases hchar : text[q]? = some c <;>
    simp [Check.stop?, probesAt, probesStop?, Probe.stop?,
      standsAt, hchar]

/-- A character does not stand before the position. -/
theorem stop?_deny_behind (text : Array Char) (origin q : Nat) (c : Char) :
    (Check.deny (probesAt c .behind)).stop? text origin q =
      if 0 < q ∧ text[q - 1]? = some c then none else some q := by
  have hback : (1 ≤ q) = (0 < q) := rfl
  by_cases hq : 0 < q <;> by_cases hchar : text[q - 1]? = some c <;>
    simp [Check.stop?, probesAt, probesStop?, Probe.stop?,
      standsAt, hback, hq, hchar]

/-! ## Sequences of them -/

variable {parts : List Expression} {checks : List Check} {row : List Link}

/-- Checks do not lead back, and stay within the text. -/
theorem forward_of_checks (h : List.Forall₂ IsCheck parts checks) {text : Array Char}
    {origin position stop : Nat} (hposition : position ≤ text.size)
    (hstop : checksStop? text origin checks position = some stop) :
    position ≤ stop ∧ stop ≤ text.size := by
  induction h generalizing position with
  | nil =>
    obtain rfl := Option.some.inj hstop
    exact ⟨Nat.le_refl _, hposition⟩
  | cons hcheck hrest ih =>
    rw [checksStop?_cons] at hstop
    obtain ⟨next, hnext, hstop⟩ := Option.bind_eq_some_iff.mp hstop
    obtain ⟨hle, hsize⟩ := hcheck.forward hposition hnext
    obtain ⟨hlater, hend⟩ := ih hsize hstop
    exact ⟨hle.trans hlater, hend⟩

/-- Parts that need no backtracking are a row that goes on where their checks do. -/
theorem exists_isRow_of_checks (h : List.Forall₂ IsCheck parts checks)
    (heasy : ∀ e ∈ parts, e.isHard = false) : ∃ row, Expression.IsRow parts row ∧
      ∀ text origin position,
        checksStop? text origin checks position = rowStop? text row position := by
  induction h with
  | nil => exact ⟨[], .nil, fun _ _ _ => rfl⟩
  | @cons e check parts checks hcheck hrest ih =>
    obtain ⟨hhere, hlater⟩ := List.forall_mem_cons.mp heasy
    obtain ⟨link, hlink, hstop⟩ := hcheck.link hhere
    obtain ⟨row, hrow, hstops⟩ := ih hlater
    refine ⟨link :: row, hlink.append hrow, fun text origin position => ?_⟩
    have hsplit : rowStop? text (link :: row) position =
        (rowStop? text [link] position).bind (rowStop? text row) :=
      rowStop?_append [link] row position
    rw [checksStop?_cons, hstop, hsplit]
    exact Option.bind_congr fun stop _ => hstops text origin stop

/-! ## Plain ends -/

/-- A probe that goes on where a row does. -/
def Probe.GoesThrough (probe : Probe) (row : List Link) : Prop :=
  ∀ (text : Array Char) (origin position : Nat), position ≤ text.size →
    probe.stop? text origin position = rowStop? text row position

/-- The program of a row goes on where the row does. -/
theorem Probe.goesThrough_plain {program : Regular.Program} (h : program.IsRow row) :
    (Probe.plain program).GoesThrough row := by
  intro text origin position hposition
  rw [Probe.stop?, h.matchAt?_eq hposition, Option.map_map]
  exact congrFun Option.map_id _

/-- The instruction of a row is a probe that goes on where the row does. -/
theorem ensures_plainInstr_row (h : Expression.IsRow parts row) (used : Nat) :
    Ensures (· = used) (plainInstr parts) fun instr used' => used' = used ∧
      ∃ probe : Probe, probe.instr = instr ∧ probe.GoesThrough row := by
  unfold plainInstr
  cases hword : Expression.plainTextOf? parts with
  | some word =>
    refine .pure fun _ hused => ⟨hused, .literal word, rfl, fun text origin position _ => ?_⟩
    rw [h.eq_of_plainTextOf? hword, stop?_literal]
  | none =>
    rw [h.groupsOf_eq]
    refine .bind (Q := fun body used' => used' = used ∧ (Regular.Program.ofRegular body).IsRow row)
      (.lift fun body _ hused hbody => ⟨hused, Regular.isRow_of_ofParts h hbody⟩) fun body => ?_
    refine .bind (Q := fun program used' => used' = used ∧ program.IsRow row)
      (.lift fun program _ hbody hprogram => ⟨hbody.1, ?_⟩) fun program => ?_
    · unfold Regular.compile at hprogram
      split at hprogram
      · obtain rfl := Except.ok.inj hprogram
        exact hbody.2
      · contradiction
    · exact .pure fun _ hprogram =>
        ⟨hprogram.1, .plain program, rfl, Probe.goesThrough_plain hprogram.2⟩

/-- Checks of a plain end that stand for others: they go on where these do, are one instruction at
most, and never make a run go back. -/
structure StandsFor (plain checks : List Check) : Prop where
  length_le : ∀ base, (checksCode base plain).length ≤ 1
  backs_eq : checksBacks plain = 0
  stop?_eq : ∀ (text : Array Char) (origin position : Nat), position ≤ text.size →
    checksStop? text origin plain position = checksStop? text origin checks position

/-- A row without trees stands for a row without items. -/
theorem standsFor_nil : StandsFor [] [] := ⟨fun _ => Nat.zero_le 1, rfl, fun _ _ _ _ => rfl⟩

/-- A plain end is compiled to checks that stand for those of its parts. They are the same at every
address. -/
theorem ensures_plainCode_checks (h : List.Forall₂ IsCheck parts checks)
    (heasy : ∀ e ∈ parts, e.isHard = false) (used : Nat) :
    Ensures (· = used) (plainCode parts) fun code used' => used' = used ∧
      ∃ plain, StandsFor plain checks ∧ ∀ base, checksCode base plain = code := by
  obtain ⟨row, hrow, hstops⟩ := exists_isRow_of_checks h heasy
  cases h with
  | nil =>
    exact .pure fun _ hused => ⟨hused, [], standsFor_nil, fun _ => rfl⟩
  | cons hcheck hrest =>
    refine .bind (ensures_plainInstr_row hrow used) fun instr => ?_
    refine .pure fun _ hinstr => ?_
    obtain ⟨hused, probe, hprobe, hthrough⟩ := hinstr
    refine ⟨hused, [.pass probe], ⟨fun _ => Nat.le_refl 1, rfl, fun text origin position hle => ?_⟩,
      fun _ => congrArg ([·]) hprobe⟩
    rw [checksStop?_singleton, hstops]
    exact hthrough text origin position hle

/-- What is handed to a plain program at the front needs no backtracking. -/
theorem isHard_of_mem_plainFront {e : Expression} (h : e ∈ parts.take (plainFront parts)) :
    e.isHard = false := by
  rw [plainFront, ← List.prefix_iff_eq_take.mp (List.takeWhile_prefix _)] at h
  have hplain := List.mem_takeWhile_imp (p := fun e : Expression => e.hasFixedLength && !e.isHard) h
  simpa using (Bool.and_eq_true_iff.mp hplain).2

/-- What is handed to a plain program at the back needs no backtracking. -/
theorem isHard_of_mem_plainBack {e : Expression}
    (h : e ∈ parts.drop (parts.length - plainBack true parts)) : e.isHard = false := by
  let plain (e : Expression) : Bool := !e.isHard && (!true || e.hasFixedLength)
  have hcount : plainBack true parts = (parts.rtakeWhile plain).length := by
    rw [List.rtakeWhile, List.length_reverse]
    rfl
  rw [hcount, ← List.suffix_iff_eq_drop.mp (List.rtakeWhile_suffix plain parts)] at h
  have hplain := List.mem_rtakeWhile_imp h
  simpa using (Bool.and_eq_true_iff.mp hplain).1

/-! ## The program -/

/-- The code of checks in a row, split at any of them. -/
theorem checksCode_append (checks checks' : List Check) (base : Nat) :
    checksCode base (checks ++ checks') =
      checksCode base checks ++ checksCode (base + (checksCode base checks).length) checks' := by
  induction checks generalizing base with
  | nil => rfl
  | cons check checks ih =>
    rw [List.cons_append, checksCode, checksCode, ih, List.append_assoc, List.length_append,
      Nat.add_assoc]

/-- Checks in a row go back as often as those of both halves do. -/
theorem checksBacks_append (checks checks' : List Check) :
    checksBacks (checks ++ checks') = checksBacks checks + checksBacks checks' := by
  induction checks with
  | nil => exact (Nat.zero_add _).symm
  | cons check checks ih =>
    rw [List.cons_append, checksBacks, checksBacks, ih, Nat.add_right_comm]

/-- Parts of a sequence are compiled to their checks. -/
theorem compileMiddle_checks (h : List.Forall₂ IsCheck parts checks) (skip count base : Nat) :
    compileMiddle skip count parts base =
      pure (checksCode base ((checks.drop skip).take count)) := by
  induction h generalizing skip count base with
  | nil => cases skip <;> cases count <;> rfl
  | cons hcheck hrest ih =>
    cases skip with
    | succ skip =>
      rw [compileMiddle]
      exact ih skip count base
    | zero =>
      cases count with
      | zero => rfl
      | succ count =>
        rw [compileMiddle, hcheck.compile_eq, pure_bind, ih, pure_bind]
        rfl

/-- How many parts of a sequence stand between its plain ends. -/
def middleCount (parts : List Expression) : Nat :=
  parts.length - plainFront parts - plainBack true (parts.drop (plainFront parts))

/-- What a sequence is compiled to: the checks of its parts, where those of the plain ends are stood
for by others. -/
def IsCompiled (parts : List Expression) (checks compiled : List Check) : Prop :=
  ∃ before behind, StandsFor before (checks.take (plainFront parts)) ∧
    StandsFor behind (checks.drop (plainFront parts + middleCount parts)) ∧
    compiled = before ++ ((checks.drop (plainFront parts)).take (middleCount parts) ++ behind)

/-- A sequence goes on where the checks of its parts do. -/
theorem IsCompiled.stop?_eq {compiled : List Check} (h : IsCompiled parts checks compiled)
    (hchecks : List.Forall₂ IsCheck parts checks) {text : Array Char} {origin position : Nat}
    (hposition : position ≤ text.size) :
    checksStop? text origin compiled position = checksStop? text origin checks position := by
  obtain ⟨before, behind, hbefore, hbehind, rfl⟩ := h
  let middle := (checks.drop (plainFront parts)).take (middleCount parts)
  have hsplit : checks = checks.take (plainFront parts) ++
      (middle ++ checks.drop (plainFront parts + middleCount parts)) := by
    rw [← List.drop_drop, List.take_append_drop, List.take_append_drop]
  have hfront := List.forall₂_take (plainFront parts) hchecks
  have hmiddle := List.forall₂_take (middleCount parts)
    (List.forall₂_drop (plainFront parts) hchecks)
  conv_rhs => rw [hsplit]
  rw [checksStop?_append, checksStop?_append, hbefore.stop?_eq _ _ _ hposition]
  refine Option.bind_congr fun start hstart => ?_
  obtain ⟨-, hsize⟩ := forward_of_checks hfront hposition hstart
  rw [checksStop?_append, checksStop?_append]
  refine Option.bind_congr fun stop hstop => ?_
  obtain ⟨-, hend⟩ := forward_of_checks hmiddle hsize hstop
  exact hbehind.stop?_eq _ _ _ hend

/-- A sequence is compiled to the checks of its parts. -/
theorem ensures_compile_concat (h : List.Forall₂ IsCheck parts checks) (used base : Nat) :
    Ensures (· = used) (compile (.concat parts) true base) fun code used' => used' = used ∧
      ∃ compiled, IsCompiled parts checks compiled ∧ code = checksCode base compiled := by
  have hfront := ensures_plainCode_checks (List.forall₂_take (plainFront parts) h)
    (fun _ => isHard_of_mem_plainFront) used
  have hback := ensures_plainCode_checks
    (List.forall₂_drop (plainFront parts + middleCount parts) h) (fun e he => ?_) used
  · rw [compile]
    refine .ite (fun h => absurd h Bool.false_ne_true) fun _ => ?_
    refine .bind hfront fun first => .of_and fun hbefore => ?_
    rw [compileMiddle_checks h, pure_bind]
    refine .bind hback fun last => .of_and fun hbehind => ?_
    obtain ⟨before, hbefore, hfirst⟩ := hbefore
    obtain ⟨behind, hbehind, hlast⟩ := hbehind
    refine .pure fun _ hused => ⟨hused, _, ⟨before, behind, hbefore, hbehind, rfl⟩, ?_⟩
    rw [checksCode_append, checksCode_append, hfirst, hlast, List.append_assoc]
    rfl
  · have hmem : e ∈ (parts.drop (plainFront parts)).drop ((parts.drop (plainFront parts)).length -
        plainBack true (parts.drop (plainFront parts))) := by
      rwa [List.drop_drop, List.length_drop]
    exact isHard_of_mem_plainBack hmem

/-- A sequence that needs backtracking is compiled to the checks of its parts, a single part by
itself. -/
theorem ensures_compile_checks (h : List.Forall₂ IsCheck parts checks)
    (hhard : (Expression.ofParts parts).isHard = true) (used base : Nat) :
    Ensures (· = used) (compile (.ofParts parts) true base) fun code used' => used' = used ∧
      ∃ compiled, IsCompiled parts checks compiled ∧ code = checksCode base compiled := by
  cases h with
  | nil => cases hhard
  | @cons e check rest others hcheck hrest =>
    cases hrest with
    | nil =>
      have hfront : plainFront [e] = 0 := by simp [plainFront, show e.isHard = true from hhard]
      have hmiddle : middleCount [e] = 1 := by
        simp [middleCount, plainFront, plainBack, show e.isHard = true from hhard]
      change Ensures _ (compile e true base) _
      rw [hcheck.compile_eq]
      refine .pure fun _ hused => ⟨hused, [check], ⟨[], [], ?_⟩, (List.append_nil _).symm⟩
      rw [hfront, hmiddle]
      exact ⟨standsFor_nil, standsFor_nil, rfl⟩
    | cons hnext hmore => exact ensures_compile_concat (.cons hcheck (.cons hnext hmore)) used base

/-- The program of a sequence that needs backtracking is that of the checks of its parts. -/
theorem Program.exists_isChecks_of_ofExpression (hchecks : List.Forall₂ IsCheck parts checks)
    (hhard : (Expression.ofParts parts).isHard = true) {p : Program}
    (h : ofExpression (.ofParts parts) 0 = .ok p) :
    ∃ compiled, IsCompiled parts checks compiled ∧ p.IsChecks compiled := by
  obtain ⟨⟨code, used⟩, hcode, hp⟩ := exists_of_bind_eq_ok h
  obtain rfl := Except.ok.inj hp
  obtain ⟨rfl, compiled, hcompiled, rfl⟩ :=
    ensures_compile_checks hchecks hhard 2 1 2 rfl code used hcode
  exact ⟨compiled, hcompiled, rfl, rfl, rfl⟩

/-- An attempt at a sequence matches where the checks of its parts go on, from its own position. -/
theorem Program.IsChecks.attempt_tells_parts {p : Program} {compiled : List Check}
    (h : p.IsChecks compiled) (hcompiled : IsCompiled parts checks compiled)
    (hchecks : List.Forall₂ IsCheck parts checks) {text : Array Char} {position : Nat}
    (hposition : position ≤ text.size) (origin credit : Nat) (table : Regular.Slots) :
    (p.attempt text origin credit position table).Tells
      (p.code.size ≤ runFuel ∧ checksBacks compiled ≤ credit)
      ((checksStop? text origin checks position).map fun stop =>
        #[some position, some stop]) := by
  have hattempt := h.attempt_tells text origin credit position table
  rw [hcompiled.stop?_eq hchecks hposition] at hattempt
  cases hstop : checksStop? text origin checks position with
  | none => rwa [hstop] at hattempt
  | some stop =>
    obtain ⟨hle, -⟩ := forward_of_checks hchecks hposition hstop
    rwa [hstop, Option.map_some, Nat.min_eq_left hle] at hattempt

end Backtrack

end GrammarScan
