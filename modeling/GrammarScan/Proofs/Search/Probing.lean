import GrammarScan.Proofs.Regex.Captures
import Mathlib.Data.Finset.Card
import Mathlib.Data.List.Chain

/-!
# Probing forward

A tokenizer asks a matcher about one buffer again and again, at positions that only move forward.
For this the memory is enough to bound the work: the engine is run again only when a request lies
behind the start of the match that its last run found. So each run has found a match, but for the
last one, and the next run finds a later one; and where a run finds none there is no further run.

About the engine it is assumed only that no match starts before the position of its search. It may
give searches up, and verdicts need not carry over. The matcher may remember anything at the
beginning.
-/

namespace GrammarScan

/-- A search that a matcher was asked for: where it begins, what is answered, and whether the answer
comes from memory. If it does not, the search is made afresh, and from a boundary the engine is run.
-/
structure Probe where
  position : Nat
  answer : Answer
  fromMemory : Bool

namespace Probe

/-- Where the match of the answer starts. -/
def start? (probe : Probe) : Option Nat :=
  match probe.answer with
  | .ok (some captures) => some captures.start
  | _ => none

/-- Whether a search found a match that starts before the position of another one. -/
def PassedBy (first next : Probe) : Prop :=
  ∃ captures, first.answer = .ok (some captures) ∧ first.position ≤ captures.start ∧
    captures.start < next.position

/-- A probe that finds a match tells where it starts. -/
theorem start?_eq_some {probe : Probe} {captures : Captures}
    (h : probe.answer = .ok (some captures)) : probe.start? = some captures.start := by
  simp only [start?, h]

/-- A probe that tells a start has found a match. -/
theorem exists_of_start?_eq_some {probe : Probe} {start : Nat} (h : probe.start? = some start) :
    ∃ captures, probe.answer = .ok (some captures) ∧ captures.start = start := by
  unfold start? at h
  split at h
  · next captures hanswer => exact ⟨captures, hanswer, Option.some.inj h⟩
  · simp at h

/-- What is passed by is passed by all that comes later. -/
theorem PassedBy.trans {first next last : Probe} (h : first.PassedBy next)
    (h' : next.PassedBy last) : first.PassedBy last := by
  obtain ⟨captures, hanswer, hle, hlt⟩ := h
  obtain ⟨captures', -, hle', hlt'⟩ := h'
  exact ⟨captures, hanswer, hle, hlt.trans (Nat.lt_of_le_of_lt hle' hlt')⟩

instance : Trans PassedBy PassedBy PassedBy := ⟨PassedBy.trans⟩

end Probe

namespace Matcher

variable {E : RegexEngine}

/-- Searches one after another in a buffer. A fault ends them. -/
def probes (m : Matcher E) (b : Buffer) : List Nat → List Probe
  | [] => []
  | position :: rest =>
    let reply := m.search b position
    let probe : Probe := ⟨position, reply.result, reply.hits ≠ 0⟩
    match reply.result with
    | .ok _ => probe :: reply.state.probes b rest
    | .error _ => [probe]

/-- The searches that the engine is run for. -/
def runs (m : Matcher E) (b : Buffer) (positions : List Nat) : List Probe :=
  (m.probes b positions).filter fun probe => !probe.fromMemory

section

variable {m : Matcher E} {b : Buffer} {position : Nat} {positions : List Nat}

/-- The first of some searches is answered from a memory that covers it, and the matcher goes on as
it is; or else the engine is run, and the matcher goes on with what came of it unless that is a
fault. -/
theorem probes_cons (m : Matcher E) (b : Buffer) (position : Nat) (positions : List Nat) :
    (∃ memo, m.memo = some memo ∧ memo.answers b.id position m.searchAnchored = true ∧
        m.probes b (position :: positions) =
          ⟨position, .ok memo.result, true⟩ :: m.probes b positions) ∨
      (∀ memo, m.memo = some memo → memo.answers b.id position m.searchAnchored = false) ∧
        ∃ later, m.probes b (position :: positions) =
            ⟨position, (m.searchAfresh b position).1, false⟩ :: later ∧
          (later = [] ∨ ∃ result, (m.searchAfresh b position).1 = .ok result ∧
            later = probes { m with memo := some ⟨b.id, position, result⟩ } b positions) := by
  rcases m.search_cases b position with ⟨memo, hmemo, hanswers, hsearch⟩ | ⟨hanswers, hsearch⟩
  · exact .inl ⟨memo, hmemo, hanswers, by simp [probes, hsearch]⟩
  · refine .inr ⟨hanswers, ?_⟩
    cases hfresh : (m.searchAfresh b position).1 with
    | error fault => exact ⟨[], by simp [probes, hsearch, hfresh], .inl rfl⟩
    | ok result =>
      exact ⟨_, by simp [probes, hsearch, hfresh, remember], .inr ⟨result, rfl, rfl⟩⟩

/-- The searches are made at the positions in their order. -/
theorem map_position_probes (m : Matcher E) (b : Buffer) (positions : List Nat) :
    (m.probes b positions).map Probe.position <+: positions := by
  induction positions generalizing m with
  | nil => exact List.prefix_rfl
  | cons position rest ih =>
    rcases m.probes_cons b position rest with
      ⟨memo, -, -, hprobes⟩ | ⟨-, later, hprobes, rfl | ⟨result, -, rfl⟩⟩
    · rw [hprobes, List.map_cons, List.cons_prefix_cons]
      exact ⟨rfl, ih m⟩
    · rw [hprobes, List.map_cons, List.cons_prefix_cons]
      exact ⟨rfl, List.nil_prefix⟩
    · rw [hprobes, List.map_cons, List.cons_prefix_cons]
      exact ⟨rfl, ih _⟩

/-- What the engine is run for is answered as without memory. -/
theorem answer_of_mem_runs {probe : Probe} (h : probe ∈ m.runs b positions) :
    probe.answer = (m.searchAfresh b probe.position).1 := by
  obtain ⟨hmem, hfresh⟩ := List.mem_filter.mp h
  clear h
  induction positions generalizing m with
  | nil => simp [probes] at hmem
  | cons position rest ih =>
    rcases m.probes_cons b position rest with
      ⟨memo, -, -, hprobes⟩ | ⟨-, later, hprobes, rfl | ⟨result, -, rfl⟩⟩ <;>
      rw [hprobes, List.mem_cons] at hmem <;> rcases hmem with rfl | hmem
    · simp at hfresh
    · exact ih hmem
    · rfl
    · simp at hmem
    · rfl
    · exact ih (m := { m with memo := some ⟨b.id, position, result⟩ }) hmem

/-- Behind a search that is remembered, the engine is first run for a position behind the start of
the match that is remembered. -/
theorem start_lt_of_head?_runs (hanchored : m.searchAnchored = false) {made : Nat}
    {result : Option Captures} (hmemo : m.memo = some ⟨b.id, made, result⟩)
    (hmade : ∀ position ∈ positions, made ≤ position) {probe : Probe}
    (h : (m.runs b positions).head? = some probe) :
    ∃ captures, result = some captures ∧ captures.start < probe.position := by
  induction positions with
  | nil => simp [runs, probes] at h
  | cons position rest ih =>
    obtain ⟨hle, hrest⟩ := List.forall_mem_cons.mp hmade
    rcases m.probes_cons b position rest with
      ⟨memo, -, -, hprobes⟩ | ⟨hanswers, later, hprobes, -⟩
    · refine ih hrest ?_
      rwa [runs, hprobes, List.filter_cons_of_neg (by simp)] at h
    · rw [runs, hprobes, List.filter_cons_of_pos (by simp), List.head?_cons] at h
      obtain rfl := Option.some.inj h
      have hmissed := hanswers _ hmemo
      cases result with
      | none => simp [Memo.answers, hanchored, hle] at hmissed
      | some captures =>
        exact ⟨captures, rfl, by simpa [Memo.answers, hanchored, hle] using hmissed⟩

/-- Each run of the engine has found a match that the next run has passed. -/
theorem isChain_runs (hanchored : m.searchAnchored = false)
    (hahead : E.FindsAhead m.regex b.text)
    (hpositions : positions.Pairwise (· ≤ ·)) : (m.runs b positions).IsChain Probe.PassedBy := by
  induction positions generalizing m with
  | nil => exact .nil
  | cons position rest ih =>
    obtain ⟨hle, hrest⟩ := List.pairwise_cons.mp hpositions
    rcases m.probes_cons b position rest with
      ⟨memo, -, -, hprobes⟩ | ⟨-, later, hprobes, rfl | ⟨result, hfresh, rfl⟩⟩
    · rw [runs, hprobes, List.filter_cons_of_neg (by simp)]
      exact ih hanchored hahead hrest
    · rw [runs, hprobes, List.filter_cons_of_pos (by simp)]
      exact .singleton _
    · rw [runs, hprobes, List.filter_cons_of_pos (by simp), List.isChain_cons]
      refine ⟨fun next hnext => ?_, ih (m := { m with memo := _ }) hanchored hahead hrest⟩
      obtain ⟨captures, rfl, hpassed⟩ := start_lt_of_head?_runs
        (m := { m with memo := some ⟨b.id, position, result⟩ }) hanchored rfl hle hnext
      obtain ⟨hboundary, hfound⟩ := find_eq_found hfresh
      exact ⟨captures, hfresh, hahead hboundary hfound, hpassed⟩

/-- What the engine finds starts behind the position that it is run for. -/
theorem le_start_of_mem_runs
    (hahead : E.FindsAhead m.regex b.text)
    {probe : Probe} (h : probe ∈ m.runs b positions) {start : Nat}
    (hstart : probe.start? = some start) : probe.position ≤ start := by
  obtain ⟨captures, hanswer, rfl⟩ := Probe.exists_of_start?_eq_some hstart
  obtain ⟨hboundary, hfound⟩ := find_eq_found ((answer_of_mem_runs h).symm.trans hanswer)
  exact hahead hboundary hfound

/-- The matches found by one run of the engine after the other start ever later. -/
theorem pairwise_start?_runs (hanchored : m.searchAnchored = false)
    (hahead : E.FindsAhead m.regex b.text)
    (hpositions : positions.Pairwise (· ≤ ·)) :
    ((m.runs b positions).filterMap Probe.start?).Pairwise (· < ·) := by
  have hpassed := (isChain_runs hanchored hahead hpositions).pairwise
  refine List.pairwise_filterMap.mpr (hpassed.imp_of_mem ?_)
  rintro first next - hnext ⟨captures, hanswer, -, hlt⟩ start hstart start' hstart'
  rw [Probe.start?_eq_some hanswer, Option.some.injEq] at hstart
  exact hstart ▸ hlt.trans_le (le_start_of_mem_runs hahead hnext hstart')

/-- No search is made behind the last one. -/
theorem position_le_of_getLast? (hpositions : positions.Pairwise (· ≤ ·)) {last probe : Probe}
    (hlast : (m.probes b positions).getLast? = some last) (h : probe ∈ m.probes b positions) :
    probe.position ≤ last.position := by
  have hsorted := hpositions.sublist (m.map_position_probes b positions).sublist
  obtain ⟨before, hbefore⟩ := List.getLast?_eq_some_iff.mp hlast
  rw [hbefore, List.map_append, List.pairwise_append] at hsorted
  rw [hbefore, List.mem_append, List.mem_singleton] at h
  rcases h with h | rfl
  · exact hsorted.2.2 _ (List.mem_map_of_mem h) _ (List.mem_map_of_mem (List.mem_singleton.mpr rfl))
  · exact Nat.le_refl _

/-- The engine is run at most once more than there are starts of matches before the last search. -/
theorem length_runs_le (hanchored : m.searchAnchored = false)
    (hahead : E.FindsAhead m.regex b.text)
    (hpositions : positions.Pairwise (· ≤ ·)) {last : Probe}
    (hlast : (m.probes b positions).getLast? = some last) :
    (m.runs b positions).length ≤ (((m.probes b positions).filterMap Probe.start?).toFinset.filter
      (· < last.position)).card + 1 := by
  have hpassed := (isChain_runs hanchored hahead hpositions).pairwise
  have hstarts := pairwise_start?_runs hanchored hahead hpositions
  have hsub : m.runs b positions ⊆ m.probes b positions := List.filter_subset_self _
  rcases List.eq_nil_or_concat' (m.runs b positions) with hnone | ⟨before, final, hruns⟩
  · simp [hnone]
  · rw [hruns] at hpassed hstarts hsub ⊢
    have hbefore : ∀ run ∈ before, run.PassedBy final := fun run hrun =>
      (List.pairwise_append.mp hpassed).2.2 run hrun final (List.mem_singleton.mpr rfl)
    have hfinal : final.position ≤ last.position :=
      position_le_of_getLast? hpositions hlast (hsub (by simp))
    -- Every run before the final one counts by the start of its match.
    have hlength : (before.filterMap Probe.start?).length = before.length := by
      rw [List.filterMap_length_eq_length]
      intro run hrun
      obtain ⟨captures, hanswer, -⟩ := hbefore run hrun
      rw [Probe.start?_eq_some hanswer, Option.isSome_some]
    have hnodup : (before.filterMap Probe.start?).Nodup := by
      rw [List.filterMap_append, List.pairwise_append] at hstarts
      exact hstarts.1.imp Nat.ne_of_lt
    have hcounted : (before.filterMap Probe.start?).toFinset ⊆
        ((m.probes b positions).filterMap Probe.start?).toFinset.filter (· < last.position) := by
      intro start hstart
      obtain ⟨run, hrun, hstart⟩ := List.mem_filterMap.mp (List.mem_toFinset.mp hstart)
      obtain ⟨captures, hanswer, -, hlt⟩ := hbefore run hrun
      have heq := (Probe.start?_eq_some hanswer).symm.trans hstart
      rw [Option.some.injEq] at heq
      rw [Finset.mem_filter, List.mem_toFinset, List.mem_filterMap]
      exact ⟨⟨run, hsub (List.mem_append_left _ hrun), hstart⟩, heq ▸ hlt.trans_le hfinal⟩
    have hcard := Finset.card_le_card hcounted
    rw [List.toFinset_card_of_nodup hnodup, hlength] at hcard
    simpa using hcard

/-- Behind a run of the engine that found nothing there is no other. -/
theorem fromMemory_of_absent (hanchored : m.searchAnchored = false)
    (hahead : E.FindsAhead m.regex b.text)
    (hpositions : positions.Pairwise (· ≤ ·)) {before behind : List Probe} {run : Probe}
    (hprobes : m.probes b positions = before ++ run :: behind) (hrun : run.fromMemory = false)
    (habsent : run.answer = .ok none) {later : Probe} (hlater : later ∈ behind) :
    later.fromMemory = true := by
  by_contra hfresh
  have hpassed := (isChain_runs hanchored hahead hpositions).pairwise
  rw [runs, hprobes, List.filter_append, List.filter_cons_of_pos (by simp [hrun]),
    List.pairwise_append, List.pairwise_cons] at hpassed
  obtain ⟨captures, hanswer, -⟩ :=
    hpassed.2.1.1 later (List.mem_filter.mpr ⟨hlater, by simpa using hfresh⟩)
  rw [habsent] at hanswer
  simp at hanswer

end

/-- On any matcher whose pattern is not tied to the position of the search, and for searches in one
buffer at positions that do not go back: the engine answers as without memory, it is run again only
behind the start of the match that it found before, so that the matches it finds start ever later.
It is run at most once more than there are starts, among the matches that are answered, before the
last of the searches; and never behind a run that found nothing. -/
theorem runs_bounded {pattern : List Char} {options : Options} {m : Matcher E}
    (hm : ofPattern pattern options E = .ok m)
    (hanchor : Pattern.hasSearchAnchor pattern = false) (memo : Option Memo) (b : Buffer)
    (hahead : E.FindsAhead m.regex b.text)
    {positions : List Nat} (hpositions : positions.Pairwise (· ≤ ·)) :
    let used : Matcher E := { m with memo }
    (∀ run ∈ used.runs b positions, run.answer = (m.searchAfresh b run.position).1) ∧
      (used.runs b positions).IsChain Probe.PassedBy ∧
      ((used.runs b positions).filterMap Probe.start?).Pairwise (· < ·) ∧
      (∀ last, (used.probes b positions).getLast? = some last →
        (used.runs b positions).length ≤
          (((used.probes b positions).filterMap Probe.start?).toFinset.filter
            (· < last.position)).card + 1) ∧
      ∀ before run behind, used.probes b positions = before ++ run :: behind →
        run.fromMemory = false → run.answer = .ok none →
        ∀ later ∈ behind, later.fromMemory = true := by
  intro used
  have hanchored : used.searchAnchored = false := (eq_of_ofPattern hm).2.2.1.trans hanchor
  exact ⟨fun _ => answer_of_mem_runs, isChain_runs hanchored hahead hpositions,
    pairwise_start?_runs hanchored hahead hpositions,
    fun _ => length_runs_le hanchored hahead hpositions,
    fun _ _ _ hprobes hrun habsent _ =>
      fromMemory_of_absent hanchored hahead hpositions hprobes hrun habsent⟩

set_option maxRecDepth 4000 in
/-- Six searches for two matches, with a pattern that needs backtracking and a limit on that: the
engine is run at the start, behind each of the two starts, and no more. -/
theorem runs_bounded_twice :
    ∃ m, ofPattern "(?=x)x".toList { backtrackLimit := some 5 } = .ok m ∧
      ((m.probes (.ofText ⟨0⟩ "..x.x".toList .utf16) [0, 1, 2, 3, 5, 5]).map
          fun probe => (probe.position, probe.start?, probe.fromMemory)) =
        [(0, some 2, false), (1, some 2, true), (2, some 2, true), (3, some 4, false),
          (5, none, false), (5, none, true)] ∧
      (m.runs (.ofText ⟨0⟩ "..x.x".toList .utf16) [0, 1, 2, 3, 5, 5]).IsChain Probe.PassedBy ∧
      ((m.runs (.ofText ⟨0⟩ "..x.x".toList .utf16) [0, 1, 2, 3, 5, 5]).filterMap
        Probe.start?).Pairwise (· < ·) := by
  have hcompiled : (fun m : Matcher =>
      (m.probes (.ofText ⟨0⟩ "..x.x".toList .utf16) [0, 1, 2, 3, 5, 5]).map
        fun probe => (probe.position, probe.start?, probe.fromMemory)) <$>
        ofPattern "(?=x)x".toList { backtrackLimit := some 5 } =
      .ok [(0, some 2, false), (1, some 2, true), (2, some 2, true), (3, some 4, false),
        (5, none, false), (5, none, true)] := by cbv
  obtain ⟨m, hm, hprobes⟩ := exists_of_map_eq_ok hcompiled
  have hahead : RegexEngine.builtIn.FindsAhead m.regex "..x.x".toList :=
    findsAhead hm (by cbv) _
  have hpositions : [0, 1, 2, 3, 5, 5].Pairwise (· ≤ ·) := by decide
  obtain ⟨-, hchain, hstarts, -⟩ := runs_bounded hm rfl m.memo
    (.ofText ⟨0⟩ "..x.x".toList .utf16) hahead hpositions
  exact ⟨m, hm, hprobes, hchain, hstarts⟩

end Matcher

end GrammarScan
