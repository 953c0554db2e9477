import GrammarScan.Proofs.Ensures
import GrammarScan.Proofs.Text.Captures
import GrammarScan.Search.Matcher

/-!
# What is relied on of an engine

A matcher knows nothing of its engine but how searches end. What is said about matchers, and about
scanners and caches that are made of them, holds for every engine; where it rests on what an engine
finds, that is one of the laws stated here, asked of one compiled pattern and one text. Each result
takes the laws that it needs and no others.

A search that is given up comes to no verdict, and no law says anything about it.
-/

namespace GrammarScan

namespace RegexEngine

variable (E : RegexEngine)

/-- A match starts where the search begins or behind it. -/
def FindsAhead (r : E.Regex) (text : List Char) : Prop :=
  ∀ {position : Nat} {captures : Captures}, isBoundary text position = true →
    E.find r text position = .found captures → position ≤ captures.start

/-- The ranges of a match run forward between boundaries of the text, and that of the overall match
is there. -/
def ReportsWellFormed (r : E.Regex) (text : List Char) : Prop :=
  ∀ {position : Nat} {captures : Captures}, isBoundary text position = true →
    E.find r text position = .found captures → captures.WellFormed text

/-- Verdicts carry over to searches that begin later and come to a verdict themselves: a match is
found again from every boundary up to its start, and where nothing is found from a boundary nothing
is found from any later one. -/
structure CarriesOver (r : E.Regex) (text : List Char) : Prop where
  found : ∀ {position later : Nat} {captures : Captures}, isBoundary text position = true →
    isBoundary text later = true → E.find r text position = .found captures → position ≤ later →
    later ≤ captures.start → (E.find r text later).isVerdict = true →
    E.find r text later = .found captures
  absent : ∀ {position later : Nat}, isBoundary text position = true →
    isBoundary text later = true → E.find r text position = .absent → position ≤ later →
    (E.find r text later).isVerdict = true → E.find r text later = .absent

/-- The search from a place that is counted in characters. -/
def findAt (r : E.Regex) (text : List Char) (place : Nat) : Outcome E.Cause :=
  E.find r text (byteLength (text.take place))

end RegexEngine

/-- What a search answers. -/
abbrev Answer := Except Fault (Option Captures)

/-- A search ends with a verdict if it finds a match or finds that there is none. -/
theorem Outcome.isVerdict_iff {Cause : Type} {outcome : Outcome Cause} :
    outcome.isVerdict = true ↔ (∃ captures, outcome = .found captures) ∨ outcome = .absent := by
  cases outcome <;> simp [isVerdict]

namespace Matcher

variable {E : RegexEngine} {m : Matcher E} {b : Buffer} {position : Nat} {captures : Captures}

/-- A search has a verdict of the engine: it begins at a boundary, and the engine comes to one. -/
structure HasVerdict (m : Matcher E) (b : Buffer) (position : Nat) : Prop where
  onBoundary : isBoundary b.text position = true
  decided : (E.find m.regex b.text position).isVerdict = true

instance (m : Matcher E) (b : Buffer) (position : Nat) : Decidable (m.HasVerdict b position) :=
  decidable_of_iff
    (isBoundary b.text position = true ∧ (E.find m.regex b.text position).isVerdict = true)
    ⟨fun h => ⟨h.1, h.2⟩, fun h => ⟨h.1, h.2⟩⟩

/-- A compiled matcher has its pattern as the engine compiles it, knows whether that is tied to the
position of the search, and remembers nothing. -/
theorem eq_of_ofPattern {pattern : List Char} {options : Options}
    (h : ofPattern pattern options E = .ok m) :
    E.compile (options.engineText pattern) options.toCostLimits = .ok m.regex ∧
      m.pattern = pattern ∧ m.searchAnchored = Pattern.hasSearchAnchor pattern ∧
      m.memo = none := by
  obtain ⟨regex, hregex, h⟩ := exists_of_bind_eq_ok h
  obtain rfl := Except.ok.inj h
  unfold Options.compile at hregex
  split at hregex
  · next hcompile =>
    obtain rfl := Except.ok.inj hregex
    exact ⟨hcompile, rfl, rfl, rfl⟩
  · simp at hregex

/-- A search is answered from a memory that covers it, and the matcher stays as it is; or else it is
made afresh, and what comes of it is remembered. -/
theorem search_cases (m : Matcher E) (b : Buffer) (position : Nat) :
    (∃ memo, m.memo = some memo ∧ memo.answers b.id position m.searchAnchored = true ∧
        m.search b position = { result := .ok memo.result, state := m, hits := 1 }) ∨
      (∀ memo, m.memo = some memo → memo.answers b.id position m.searchAnchored = false) ∧
        m.search b position =
          { result := (m.searchAfresh b position).1
            state := m.remember b position (m.searchAfresh b position).1
            notices := (m.searchAfresh b position).2 } := by
  cases hfilter : m.memo.filter (·.answers b.id position m.searchAnchored) with
  | some memo =>
    obtain ⟨hmemo, hanswers⟩ := Option.filter_eq_some_iff.mp hfilter
    exact .inl ⟨memo, hmemo, hanswers, by simp only [search, hfilter]⟩
  | none =>
    refine .inr ⟨fun memo hmemo => ?_, by simp only [search, hfilter]⟩
    simpa using Option.filter_eq_none_iff.mp hfilter memo hmemo

/-- A search without memory from a boundary finds what the engine finds. -/
theorem searchAfresh_eq_some (hposition : isBoundary b.text position = true) :
    (m.searchAfresh b position).1 = .ok (some captures) ↔
      E.find m.regex b.text position = .found captures := by
  simp only [searchAfresh, if_pos hposition]
  cases E.find m.regex b.text position <;> simp

/-- A search without memory that finds a match is made at a boundary, and the match is that of the
engine. -/
theorem find_eq_found (h : (m.searchAfresh b position).1 = .ok (some captures)) :
    isBoundary b.text position = true ∧ E.find m.regex b.text position = .found captures := by
  cases hposition : isBoundary b.text position with
  | false => simp [searchAfresh, hposition] at h
  | true => exact ⟨rfl, (searchAfresh_eq_some hposition).mp h⟩

namespace HasVerdict

/-- A search with a verdict finds nothing just if the engine finds nothing. -/
theorem searchAfresh_eq_none (h : m.HasVerdict b position) :
    (m.searchAfresh b position).1 = .ok none ↔ E.find m.regex b.text position = .absent := by
  simp only [searchAfresh, if_pos h.onBoundary]
  rcases Outcome.isVerdict_iff.mp h.decided with ⟨captures, hfound⟩ | habsent
  · simp [hfound]
  · simp [habsent]

/-- A search with a verdict has an answer. -/
theorem exists_searchAfresh (h : m.HasVerdict b position) :
    ∃ result, (m.searchAfresh b position).1 = .ok result := by
  rcases Outcome.isVerdict_iff.mp h.decided with ⟨captures, hfound⟩ | habsent
  · exact ⟨some captures, (searchAfresh_eq_some h.onBoundary).mpr hfound⟩
  · exact ⟨none, h.searchAfresh_eq_none.mpr habsent⟩

end HasVerdict

/-- A search without a verdict that has an answer all the same is answered as if nothing had been
found. -/
theorem eq_none_of_not_hasVerdict (h : ¬ m.HasVerdict b position) {result : Option Captures}
    (hresult : (m.searchAfresh b position).1 = .ok result) : result = none := by
  cases result with
  | none => rfl
  | some captures =>
    obtain ⟨hposition, hfound⟩ := find_eq_found hresult
    exact absurd ⟨hposition, by rw [hfound]; rfl⟩ h

/-- A remembered search that answers a request gives the answer of a search without memory. For a
pattern that is not tied to the position of the search both searches have to come to verdicts, which
have to carry over. -/
theorem searchAfresh_eq_of_answers {memo : Memo}
    (hlaws : m.searchAnchored = false → E.CarriesOver m.regex b.text)
    (hmade : m.searchAnchored = false → m.HasVerdict b memo.position)
    (hmemo : (m.searchAfresh b memo.position).1 = .ok memo.result)
    (hhere : m.searchAnchored = false → m.HasVerdict b position)
    (hanswers : memo.answers b.id position m.searchAnchored = true) :
    (m.searchAfresh b position).1 = .ok memo.result := by
  cases hanchored : m.searchAnchored with
  | true =>
    simp only [Memo.answers, hanchored, if_true, Bool.and_eq_true, decide_eq_true_eq] at hanswers
    rw [← hanswers.2]
    exact hmemo
  | false =>
    have hcarries := hlaws hanchored
    have hmade := hmade hanchored
    have hhere := hhere hanchored
    simp only [Memo.answers, hanchored, Bool.false_eq_true, if_false, Bool.and_eq_true,
      decide_eq_true_eq] at hanswers
    obtain ⟨-, hle, hstart⟩ := hanswers
    cases hresult : memo.result with
    | none =>
      rw [hresult] at hmemo
      have habsent := hmade.searchAfresh_eq_none.mp hmemo
      exact hhere.searchAfresh_eq_none.mpr
        (hcarries.absent hmade.onBoundary hhere.onBoundary habsent hle hhere.decided)
    | some captures =>
      rw [hresult] at hmemo hstart
      have hfound := (searchAfresh_eq_some hmade.onBoundary).mp hmemo
      exact (searchAfresh_eq_some hhere.onBoundary).mpr
        (hcarries.found hmade.onBoundary hhere.onBoundary hfound hle (by simpa using hstart)
          hhere.decided)

end Matcher

end GrammarScan
