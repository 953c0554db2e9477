import GrammarScan.Proofs.Backtrack.CheckTrees
import GrammarScan.Proofs.Expression.Anchored
import GrammarScan.Proofs.Regex.Reuse
import GrammarScan.Proofs.Search.Items

/-!
# Items for the built-in engine

The built-in engine reads an item as a tree that is compiled to a check, and the check goes on where
the item holds. Rows of items that need no backtracking are rows of a plain program; any others
become a program of checks. Either way a search that is not given up finds the first place from
which the items hold. A plain program never gives up, and checks that go on at once make no run go
back.
-/

namespace GrammarScan

open Backtrack (Check IsCheck IsCompiled StandsFor checksStop? checksBacks checksCode probesAt)

/-! ## The engine of checks -/

/-- The range of checks that go on from the first possible place on. -/
def checksSpan? (text : List Char) (checks : List Check) (origin : Nat) : Option Span :=
  (List.range' origin (text.length + 1 - origin)).findSome? fun start =>
    (checksStop? text.toArray origin checks start).map (spanOf text start)

namespace Engine

variable {parts : List Expression} {checks compiled : List Check} {engine : Engine}
  {text : List Char} {backtracks origin : Nat}

/-- Trees that are compiled to checks need no backtracking and are looked for as a row, or else as
the checks that they are compiled to. -/
theorem exists_program_of_checks (hchecks : List.Forall₂ IsCheck parts checks) {limits : Limits}
    (h : ofPattern ⟨.ofParts parts, 0⟩ limits = .ok engine) :
    ((∀ e ∈ parts, e.isHard = false) ∧ ∃ program row, engine = .plain program ∧
        program.IsRow row ∧ ∀ text origin position,
          checksStop? text origin checks position = rowStop? text row position) ∨
      (∃ e ∈ parts, e.isHard = true) ∧ ∃ program compiled, engine = .backtracking program ∧
        IsCompiled parts checks compiled ∧ program.IsChecks compiled := by
  rcases exists_of_ofPattern_eq_ok h with
    ⟨hhard, program, rfl, hprogram⟩ | ⟨heasy, body, rfl, hbody⟩
  · obtain ⟨compiled, hcompiled, hprogram⟩ :=
      Backtrack.Program.exists_isChecks_of_ofExpression hchecks hhard hprogram
    rw [Expression.isHard_ofParts_eq, List.any_eq_true] at hhard
    exact .inr ⟨hhard, program, compiled, rfl, hcompiled, hprogram⟩
  · rw [Expression.isHard_ofParts_eq, List.any_eq_false] at heasy
    have hall : ∀ e ∈ parts, e.isHard = false := fun e he => by simpa using heasy e he
    obtain ⟨row, hrow, hstops⟩ := Backtrack.exists_isRow_of_checks hchecks hall
    exact .inl ⟨hall, _, row, rfl, Regular.isRow_of_ofParts_single hrow hbody, hstops⟩

/-- A search for a row finds the first start from which it goes through. -/
theorem find_of_isRow {program : Regular.Program} {row : List Link} (h : program.IsRow row) :
    (Engine.plain program).find text backtracks origin =
      .ofSpan? ((List.range' origin (text.length + 1 - origin)).findSome? fun start =>
        (rowStop? text.toArray row start).map (spanOf text start)) := by
  have hspan : (program.search? text.toArray origin).map
      (fun found => spanOf text found.start found.stop) =
        (List.range' origin (text.length + 1 - origin)).findSome? fun start =>
          (rowStop? text.toArray row start).map (spanOf text start) := by
    rw [h.search?_eq, List.map_findSome?, List.size_toArray]
    congr 1
    funext start
    simp [Option.map_map, Function.comp_def]
  rw [find, ← hspan]
  cases program.search? text.toArray origin with
  | none => rfl
  | some found => simp [h.groupBound_eq, Outcome.ofSpan?]

/-- A plain program is never given up. -/
theorem isAborted_find_plain (program : Regular.Program) :
    ((Engine.plain program).find text backtracks origin).isAborted = false := by
  rw [find]
  cases program.search? text.toArray origin <;> rfl

section Checks

variable {program : Backtrack.Program} (h : program.IsChecks compiled)
  (hcompiled : IsCompiled parts checks compiled) (hchecks : List.Forall₂ IsCheck parts checks)

include h in
/-- A match of checks has no groups. -/
theorem find_of_accepted {start stop : Nat} (haccepted :
    program.search text.toArray backtracks origin = .accepted #[some start, some stop]) :
    (backtracking program).find text backtracks origin =
      .ofSpan? (some (spanOf text start stop)) := by
  rw [find, haccepted]
  simp only [h.groupCount_eq]
  rfl

include h hcompiled hchecks

/-- A search for checks that is not given up finds the first start from which they go on. -/
theorem find_of_isChecks
    (hdone : ((backtracking program).find text backtracks origin).isAborted = false) :
    (backtracking program).find text backtracks origin =
      .ofSpan? (checksSpan? text checks origin) := by
  let starts := List.range' origin (text.length + 1 - origin)
  let ends? (start : Nat) : Option (Nat × Nat) :=
    (checksStop? text.toArray origin checks start).map fun stop => (start, stop)
  have htells : (program.search text.toArray backtracks origin).Tells False
      ((starts.findSome? ends?).map fun ends => #[some ends.1, some ends.2]) := by
    rw [List.map_findSome?]
    refine Backtrack.Program.searchFrom_tells fun skipped hskipped credit table => ?_
    have hinside : origin + skipped ≤ text.toArray.size := by
      rw [List.size_toArray]
      omega
    have hattempt := h.attempt_tells_parts hcompiled hchecks hinside origin credit table
    simpa [ends?, Function.comp_def, Option.map_map] using hattempt.imp False.elim
  have hspans : checksSpan? text checks origin =
      (starts.findSome? ends?).map fun ends => spanOf text ends.1 ends.2 := by
    rw [checksSpan?, List.map_findSome?]
    congr 1
    funext start
    simp [ends?, Option.map_map, Function.comp_def]
  rw [hspans]
  cases hsearch : program.search text.toArray backtracks origin with
  | accepted slots =>
    rw [hsearch] at htells
    obtain ⟨ends, hends, rfl⟩ := Option.map_eq_some_iff.mp htells
    rw [hends, find_of_accepted h hsearch]
    rfl
  | failed credit table =>
    rw [hsearch] at htells
    rw [Option.map_eq_none_iff.mp htells, find, hsearch]
    rfl
  | aborted cause =>
    rw [find, hsearch] at hdone
    cases hdone
  | reversed =>
    rw [hsearch] at htells
    exact htells.elim

/-- A search for checks that go on where it begins is not given up, if it may go back as often as
they make it and the program is not beyond all bounds. -/
theorem isAborted_find_of_isChecks (horigin : origin ≤ text.length)
    (hsize : program.code.size ≤ Backtrack.Program.runFuel)
    (hbacks : checksBacks compiled ≤ backtracks)
    (hstop : (checksStop? text.toArray origin checks origin).isSome = true) :
    ((backtracking program).find text backtracks origin).isAborted = false := by
  obtain ⟨stop, hstop⟩ := Option.isSome_iff_exists.mp hstop
  have htells := h.attempt_tells_parts hcompiled hchecks
    (by rwa [List.size_toArray] : origin ≤ text.toArray.size) origin backtracks #[]
  have htries : text.toArray.size + 1 - origin = text.length - origin + 1 := by
    rw [List.size_toArray]
    omega
  rw [hstop] at htells
  cases hattempt : program.attempt text.toArray origin backtracks origin #[] with
  | accepted slots =>
    rw [find, Backtrack.Program.search, htries, Backtrack.Program.searchFrom_of_accepted hattempt]
    rfl
  | failed credit table =>
    rw [hattempt] at htells
    exact absurd htells (Option.some_ne_none _)
  | aborted cause =>
    rw [hattempt] at htells
    exact absurd ⟨hsize, hbacks⟩ htells
  | reversed =>
    rw [hattempt] at htells
    exact htells.elim

end Checks

/-- A search for trees that are compiled to checks finds the first place from which these go on,
unless it is given up. -/
theorem find_of_checks (hchecks : List.Forall₂ IsCheck parts checks) {limits : Limits}
    (hengine : ofPattern ⟨.ofParts parts, 0⟩ limits = .ok engine)
    (hdone : (engine.find text backtracks origin).isAborted = false) :
    engine.find text backtracks origin = .ofSpan? (checksSpan? text checks origin) := by
  rcases exists_program_of_checks hchecks hengine with
    ⟨-, program, row, rfl, hrow, hstops⟩ | ⟨-, program, compiled, rfl, hcompiled, hprogram⟩
  · simp only [find_of_isRow hrow, checksSpan?, hstops]
  · exact find_of_isChecks hprogram hcompiled hchecks hdone

end Engine

/-! ## Items as trees and as checks -/

namespace Item

/-- The tree that an item is read as. -/
def tree (multiLine : Bool) : Item → Expression
  | .char c => .literal c false
  | .textStart => .assertion .textStart
  | .searchStart => .searchStart
  | .lineEnd => .assertion (Reader.endCondition multiLine)
  | .noFeedAhead => .lookAround .ahead true (.literal '\n' false)
  | .noFeedBehind => .lookAround .behind true (.literal '\n' false)

/-- The check that an item is compiled to. -/
def check (multiLine : Bool) : Item → Check
  | .char c => .pass (.literal [c])
  | .textStart => .pass (.assertion .textStart)
  | .searchStart => .pass .searchStart
  | .lineEnd => .pass (.assertion (Reader.endCondition multiLine))
  | .noFeedAhead => .deny (probesAt '\n' .ahead)
  | .noFeedBehind => .deny (probesAt '\n' .behind)

/-- The tree of an item is compiled to its check. -/
theorem isCheck (item : Item) (multiLine : Bool) :
    IsCheck (item.tree multiLine) (item.check multiLine) := by
  cases item with
  | char c => exact Backtrack.isCheck_literal c
  | textStart | lineEnd => exact Backtrack.isCheck_assertion _
  | searchStart => exact Backtrack.isCheck_searchStart
  | noFeedAhead | noFeedBehind => exact Backtrack.isCheck_lookAround _ '\n'

/-- The check of an item goes on where the item holds. -/
theorem stop?_check {multiLine : Bool} {text : List Char} {origin place : Nat}
    (hle : origin ≤ place) (item : Item) :
    (item.check multiLine).stop? text.toArray origin place =
      if item.holds multiLine text origin place then some (place + item.width) else none := by
  cases item with
  | char c =>
    refine (Backtrack.stop?_literal text.toArray origin place [c]).trans ?_
    simp [rowStop?, holds, width]
  | textStart =>
    simp [check, Check.stop?, Backtrack.Probe.stop?, Assertion.holds, Place.holds, holds, width]
  | searchStart =>
    have hiff : place ≤ origin ↔ place = origin := ⟨fun h => Nat.le_antisymm h hle, Nat.le_of_eq⟩
    simp [check, Check.stop?, Backtrack.Probe.stop?, holds, width, hiff]
  | lineEnd =>
    cases multiLine <;>
      simp [check, Check.stop?, Backtrack.Probe.stop?, Reader.endCondition, Assertion.holds,
        Place.holds, holds, width]
  | noFeedAhead =>
    refine (Backtrack.stop?_deny_ahead text.toArray origin place '\n').trans ?_
    simp [holds, width]
  | noFeedBehind =>
    refine (Backtrack.stop?_deny_behind text.toArray origin place '\n').trans ?_
    by_cases hplace : place = 0 <;> simp [holds, width, hplace, Nat.pos_iff_ne_zero]

/-- The checks of items go on where the items hold. -/
theorem checksStop?_checks {multiLine : Bool} {text : List Char} {origin place : Nat}
    (hle : origin ≤ place) (items : List Item) :
    checksStop? text.toArray origin (items.map (check multiLine)) place =
      itemsStop? multiLine text origin items place := by
  induction items generalizing place with
  | nil => rfl
  | cons item items ih =>
    rw [List.map_cons, Backtrack.checksStop?_cons, stop?_check hle, itemsStop?]
    split
    · exact ih (hle.trans (Nat.le_add_right _ _))
    · rfl

/-- The checks of items have the first span of the items. -/
theorem checksSpan?_checks (multiLine : Bool) (text : List Char) (items : List Item)
    (origin : Nat) : checksSpan? text (items.map (check multiLine)) origin =
      firstSpan? multiLine text items origin :=
  findSome?_range'_congr fun _ hle => by rw [checksStop?_checks hle]

/-- An item is read as its tree. -/
theorem reads_cons {depth : Nat} {text : List Char} {parts : Bool → List Expression}
    (h : Reader.Reads (Reader.groupWith (Reader.expression (depth + 1))) text parts)
    (hends : Reader.endsPiece text = true) (item : Item) :
    Reader.Reads (Reader.groupWith (Reader.expression (depth + 1))) (item.spelled ++ text)
      fun multiLine => item.tree multiLine :: parts multiLine := by
  cases item with
  | char c => exact h.char hends c
  | textStart => exact h.textStart hends
  | searchStart => exact h.searchStart hends
  | lineEnd => exact h.lineEnd hends
  | noFeedAhead => exact h.noLineFeed hends .ahead
  | noFeedBehind => exact h.noLineFeed hends .behind

/-- What comes before an item ends in front of it. -/
theorem endsPiece_spelled (item : Item) (text : List Char) :
    Reader.endsPiece (item.spelled ++ text) = true := by
  cases item with
  | char c => exact Reader.endsPiece_escapeChar_append c text
  | textStart | searchStart | lineEnd | noFeedAhead | noFeedBehind => rfl

end Item

/-- A row of items is read as the row of their trees. -/
theorem reads_spell (depth : Nat) (items : List Item) :
    Reader.Reads (Reader.groupWith (Reader.expression (depth + 1))) (spell items)
        (fun multiLine => items.map (Item.tree multiLine)) ∧
      Reader.endsPiece (spell items) = true := by
  induction items with
  | nil => exact ⟨Reader.reads_nil _, rfl⟩
  | cons item items ih =>
    rw [spell_cons]
    exact ⟨Item.reads_cons ih.1 ih.2 item, item.endsPiece_spelled _⟩

/-- The trees of items are compiled to their checks. -/
theorem forall₂_isCheck (multiLine : Bool) (items : List Item) :
    List.Forall₂ IsCheck (items.map (Item.tree multiLine)) (items.map (Item.check multiLine)) :=
  List.forall₂_map_left_iff.mpr
    (List.forall₂_map_right_iff.mpr (List.forall₂_same.mpr fun item _ => item.isCheck multiLine))

/-! ## The laws -/

namespace RegexEngine

variable {options : Options} {items : List Item} {word : List Char} {r : GrammarScan.Regex}
  {text : List Char} {place : Nat}

/-- The engine of a row of items is that of their trees. -/
theorem ofPattern_of_isRegexOf (h : builtIn.IsRegexOf options items r) :
    Engine.ofPattern ⟨.ofParts (items.map (Item.tree !options.singleLineAnchors)), 0⟩
      options.bounds = .ok r.engine := by
  obtain ⟨hreads, hends⟩ := reads_spell (nestingLimit - 2) items
  obtain ⟨parsed, hparsed, hengine⟩ := Regex.exists_of_ofText_eq_ok h
  rw [ParsedPattern.ofText_of_reads hreads hends, Except.ok.injEq] at hparsed
  rwa [← hparsed] at hengine

/-- The built-in engine reads all items. -/
theorem builtIn_readsItems : builtIn.ReadsItems options fun _ => true := by
  intro items r text place _ hr hplace hdone
  change r.find text _ = _
  change (r.find text _).isAborted = false at hdone
  rw [Regex.find_take r hplace] at hdone ⊢
  rw [Engine.find_of_checks (forall₂_isCheck _ items) (ofPattern_of_isRegexOf hr) hdone,
    Item.checksSpan?_checks]

/-- Items that need no backtracking are looked for by a plain program, which never gives up. -/
theorem isAborted_findAt_of_easy (h : builtIn.IsRegexOf options items r)
    (hplace : place ≤ text.length)
    (heasy : ∀ item ∈ items, (item.tree !options.singleLineAnchors).isHard = false) :
    (builtIn.findAt r text place).isAborted = false := by
  change (r.find text _).isAborted = false
  rw [Regex.find_take r hplace]
  rcases Engine.exists_program_of_checks (forall₂_isCheck _ items) (ofPattern_of_isRegexOf h) with
    ⟨-, program, row, hengine, -⟩ | ⟨⟨e, he, hhard⟩, -⟩
  · rw [hengine]
    exact Engine.isAborted_find_plain program
  · obtain ⟨item, hitem, rfl⟩ := List.mem_map.mp he
    rw [heasy item hitem] at hhard
    cases hhard

/-- The built-in engine gives up no search for text alone. -/
theorem builtIn_settlesText : builtIn.SettlesText options :=
  fun hr hplace => isAborted_findAt_of_easy hr hplace (by simp [Item.tree, Expression.isHard])

/-- Text behind the start of the search is handed to a plain program. -/
theorem exists_eq_of_isCompiled_searchStart {multiLine : Bool} {compiled : List Check}
    (h : IsCompiled ((Item.searchStart :: word.map .char).map (Item.tree multiLine))
      ((Item.searchStart :: word.map .char).map (Item.check multiLine)) compiled) :
    ∃ before behind, compiled = before ++ ([.pass .searchStart] ++ behind) ∧
      StandsFor before [] ∧ StandsFor behind ((word.map Item.char).map (Item.check multiLine)) := by
  obtain ⟨before, behind, hbefore, hbehind, rfl⟩ := h
  have hfront : Backtrack.plainFront
      ((Item.searchStart :: word.map .char).map (Item.tree multiLine)) = 0 := by
    simp [Backtrack.plainFront, Item.tree, Expression.isHard]
  have hmiddle : Backtrack.middleCount
      ((Item.searchStart :: word.map .char).map (Item.tree multiLine)) = 1 := by
    have hback : Backtrack.plainBack true
        ((Item.searchStart :: word.map .char).map (Item.tree multiLine)) = word.length := by
      rw [Backtrack.plainBack, List.map_cons, List.reverse_cons, List.takeWhile_append_of_pos,
        List.takeWhile_cons_of_neg] <;>
        simp [Item.tree, Expression.isHard, Expression.hasFixedLength]
    rw [Backtrack.middleCount, hfront, List.drop_zero, hback]
    simp
  rw [hfront] at hbefore
  rw [hfront, hmiddle] at hbehind
  rw [hfront, hmiddle]
  exact ⟨before, behind, rfl, hbefore, hbehind⟩

/-- The built-in engine gives up no search for text behind an anchor that holds with it where the
search begins. -/
theorem builtIn_settlesAnchoredText : builtIn.SettlesAnchoredText options := by
  intro anchor word r text place hanchor hr hplace hstop
  cases anchor with
  | char | lineEnd | noFeedAhead | noFeedBehind => cases hanchor
  | textStart =>
    exact isAborted_findAt_of_easy hr hplace
      (by simp [Item.tree, Expression.isHard, Assertion.isAboutWords])
  | searchStart =>
    change (r.find text _).isAborted = false
    rw [Regex.find_take r hplace]
    rcases Engine.exists_program_of_checks (forall₂_isCheck _ _) (ofPattern_of_isRegexOf hr) with
      ⟨heasy, -⟩ | ⟨-, program, compiled, hengine, hcompiled, hprogram⟩
    · cases heasy .searchStart List.mem_cons_self
    · rw [hengine]
      rw [← Item.checksStop?_checks (Nat.le_refl place)] at hstop
      obtain ⟨before, behind, rfl, hbefore, hbehind⟩ :=
        exists_eq_of_isCompiled_searchStart hcompiled
      refine Engine.isAborted_find_of_isChecks hprogram hcompiled (forall₂_isCheck _ _) hplace
        ?_ ?_ hstop
      · have hfew : program.code.size ≤ 6 := by
          have hfirst := hbefore.length_le 1
          have hlast := hbehind.length_le (1 + (checksCode 1 before).length + 1)
          have hcode := congrArg Array.size hprogram.code_eq
          simp only [Backtrack.checksCode_append, Check.code, checksCode, List.size_toArray,
            List.length_cons, List.length_append, List.length_nil, Nat.zero_add, Nat.add_zero]
            at hcode
          omega
        exact hfew.trans (by decide)
      · rw [Backtrack.checksBacks_append, Backtrack.checksBacks_append, hbefore.backs_eq,
          hbehind.backs_eq]
        exact Nat.zero_le _

end RegexEngine

end GrammarScan
