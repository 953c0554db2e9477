import GrammarScan.Proofs.Backtrack.Code
import GrammarScan.Proofs.Expression.Parser
import GrammarScan.Proofs.Regular.Numbering
import GrammarScan.Proofs.Search.Laws

/-!
# The attempts of the built-in engine

A search makes one attempt after another, so a search that begins later but not behind the attempt
that matches comes to the same attempt, and one that begins anywhere behind a search without a match
has only attempts before it that failed. So the built-in engine meets the laws for answers that
carry over, as long as attempts do not see the search they belong to.

Three things let them see it. The escape `\G` asks where the search began. The letter of a property
takes in a backslash behind it and can so bring forth an escape that was none. And a plain part that
is words leaves the groups of an earlier attempt in the table. The escape `\K` does not make an
attempt see its search, but it moves the start of the match away from where the attempt began, and
the start of the match is then no bound up to which the answer carries over.
-/

namespace GrammarScan

namespace Engine

/-- Whether no plain part with groups is words, so that attempts read groups of their own. -/
def readsOwnGroups : Engine → Bool
  | .plain _ => true
  | .backtracking program => program.readsOwnGroups

/-- An engine whose attempts do not see the search they belong to. -/
def IgnoresSearch : Engine → Prop
  | .plain program => program.Led
  | .backtracking program => program.IgnoresSearch

/-- An engine whose matches start no later than the attempt began. -/
def KeepsStart : Engine → Prop
  | .plain _ => True
  | .backtracking program => program.KeepsStart

variable {engine : Engine} {text : List Char} {backtracks position : Nat}

/-- A match whose start was saved no later than its attempt began starts no later. -/
theorem start_le_of_startsBy {start : Nat} {slots : Regular.Slots}
    (h : Backtrack.StartsBy start slots) (groupCount : Nat) :
    (Captures.mk ((List.range groupCount).map (entry text slots))).start ≤
      byteLength (text.take start) := by
  cases groupCount with
  | zero => exact Nat.zero_le _
  | succ count =>
    rw [List.range_succ_eq_map, List.map_cons]
    change ((entry text slots 0).getD ⟨0, 0⟩).start ≤ _
    unfold entry
    split
    · next first stop hfirst hstop =>
      exact byteLength_take_mono text (h first hfirst)
    · exact Nat.zero_le _

/-- The match of a search is that of an attempt, and every search up to where that begins finds the
same. -/
theorem IgnoresSearch.exists_of_found (h : engine.IgnoresSearch)
    (hposition : position ≤ text.length) {captures : Captures}
    (hfound : engine.find text backtracks position = .found captures) :
    ∃ start, position ≤ start ∧ start ≤ text.length ∧
      (∀ later, position ≤ later → later ≤ start →
        engine.find text backtracks later = .found captures) ∧
      (engine.KeepsStart → captures.start ≤ byteLength (text.take start)) := by
  cases engine with
  | plain program =>
    have hled : program.Led := h
    rw [find] at hfound
    split at hfound
    · next found hsearch =>
      obtain rfl := Outcome.found.inj hfound
      rw [hled.search?_eq hposition] at hsearch
      obtain ⟨count, hcount, hmatch, hlater⟩ :=
        Regular.Program.exists_of_searchFrom?_eq_some hsearch
      rw [List.size_toArray] at hcount
      refine ⟨position + count, Nat.le_add_right _ _, by omega, ?_, ?_⟩
      · intro later hle hstart
        have hagain := hlater (later - position) (by omega)
        rw [Nat.add_sub_cancel' hle, Nat.sub_sub, Nat.add_sub_cancel' hle,
          ← hled.search?_eq (by rw [List.size_toArray]; omega)] at hagain
        rw [find, hagain]
      · intro _
        have hstart : found.start = position + count := hled.start_eq hmatch
        exact Nat.le_of_eq (congrArg (fun n => byteLength (text.take n)) hstart)
    · simp at hfound
  | backtracking program =>
    have hignores : program.IgnoresSearch := h
    rw [find] at hfound
    split at hfound
    · next slots hslots =>
      obtain rfl := Outcome.found.inj hfound
      obtain ⟨count, hcount, ⟨credit, table, hattempt⟩, hlater⟩ :=
        hignores.exists_of_accepted hslots
      rw [List.size_toArray] at hcount
      refine ⟨position + count, Nat.le_add_right _ _, by omega, ?_, ?_⟩
      · intro later hle hstart
        have hagain := hlater (later - position) (by omega) later backtracks le_rfl #[]
        rw [Nat.add_sub_cancel' hle, Nat.sub_sub, Nat.add_sub_cancel' hle] at hagain
        rw [find, Backtrack.Program.search, hagain]
      · intro hkeeps
        have hkeeps : program.KeepsStart := hkeeps
        exact start_le_of_startsBy (hkeeps.attempt hattempt) _
    · simp at hfound
    · simp at hfound
    · simp at hfound

/-- Where a search finds nothing, no later search does. -/
theorem IgnoresSearch.find_eq_absent (h : engine.IgnoresSearch)
    (habsent : engine.find text backtracks position = .absent) {later : Nat}
    (hle : position ≤ later) (hlater : later ≤ text.length) :
    engine.find text backtracks later = .absent := by
  cases engine with
  | plain program =>
    have hled : program.Led := h
    rw [find] at habsent
    split at habsent
    · simp at habsent
    · next hsearch =>
      rw [hled.search?_eq (hle.trans hlater)] at hsearch
      have hagain := Regular.Program.searchFrom?_eq_none hsearch
        (by rw [List.size_toArray]; omega : later - position ≤ _)
      rw [Nat.add_sub_cancel' hle, Nat.sub_sub, Nat.add_sub_cancel' hle,
        ← hled.search?_eq hlater] at hagain
      rw [find, hagain]
  | backtracking program =>
    have hignores : program.IgnoresSearch := h
    rw [find] at habsent
    split at habsent
    · simp at habsent
    · next left table hsearch =>
      obtain ⟨left', table', hagain⟩ := hignores.exists_of_failed hsearch
        (by rw [List.size_toArray]; omega : later - position ≤ _) later (le_refl backtracks) #[]
      rw [Nat.add_sub_cancel' hle, Nat.sub_sub, Nat.add_sub_cancel' hle] at hagain
      rw [find, Backtrack.Program.search, hagain]
    · simp at habsent
    · simp at habsent

/-- A tree that needs backtracking is compiled to a program with backtracking, and any other one to
the program of its plain expression. -/
theorem exists_of_ofPattern_eq_ok {parsed : ParsedPattern} {limits : Limits}
    (h : ofPattern parsed limits = .ok engine) :
    (parsed.tree.isHard = true ∧ ∃ program, engine = .backtracking program ∧
        Backtrack.Program.ofExpression parsed.tree parsed.groupCount = .ok program) ∨
      parsed.tree.isHard = false ∧ ∃ body, engine = .plain (.ofRegular body) ∧
        Regular.ofParts .alternatives 0 [parsed.tree] = .ok body := by
  unfold ofPattern at h
  split at h
  · simp at h
  · split at h
    · next hhard =>
      obtain ⟨program, hprogram, rfl⟩ := exists_of_map_eq_ok h
      exact .inl ⟨hhard, program, rfl, hprogram⟩
    · next hhard =>
      obtain ⟨body, hbody, h⟩ := exists_of_bind_eq_ok h
      obtain ⟨program, hprogram, rfl⟩ := exists_of_map_eq_ok h
      unfold Regular.compile at hprogram
      split at hprogram
      · obtain rfl := Except.ok.inj hprogram
        exact .inr ⟨by simpa using hhard, body, rfl, hbody⟩
      · simp at hprogram

/-- The engine of a tree that does not ask where the search began ignores the search, as long as its
attempts read groups of their own. -/
theorem ignoresSearch_ofPattern {parsed : ParsedPattern} {limits : Limits}
    (h : ofPattern parsed limits = .ok engine) (htree : parsed.tree.Lacks 'G')
    (hown : engine.readsOwnGroups = true) : engine.IgnoresSearch := by
  rcases exists_of_ofPattern_eq_ok h with ⟨-, program, rfl, hprogram⟩ | ⟨-, body, rfl, hbody⟩
  · exact Backtrack.Program.ignoresSearch_ofExpression hprogram htree.uses htree.groups hown
  · refine Regular.Program.led_ofRegular (Regular.groupsNumbered_ofParts hbody ?_)
    simpa [Expression.groupsOf] using htree.groups

/-- The engine of a tree that does not move the start of the match keeps the start. -/
theorem keepsStart_ofPattern {parsed : ParsedPattern} {limits : Limits}
    (h : ofPattern parsed limits = .ok engine) (htree : parsed.tree.Lacks 'K') :
    engine.KeepsStart := by
  rcases exists_of_ofPattern_eq_ok h with ⟨-, program, rfl, hprogram⟩ | ⟨-, body, rfl, -⟩
  · exact Backtrack.Program.keepsStart_ofExpression hprogram htree.uses htree.groups
  · trivial

end Engine

namespace Regex

variable {r : Regex} {text : List Char} {position : Nat}

/-- A search from behind some of the characters is one of the engine. -/
theorem find_take (r : Regex) {count : Nat} (h : count ≤ text.length) :
    r.find text (byteLength (text.take count)) = r.engine.find text r.backtracks count := by
  have hcut := splitAtByte?_append (text.take count) (text.drop count)
  rw [List.take_append_drop] at hcut
  rw [find, hcut]
  exact congrArg (r.engine.find text r.backtracks) (List.length_take_of_le h)

/-- A match that is found from a boundary is found from every boundary up to where its attempt
began. -/
theorem exists_of_find_eq_found (h : r.engine.IgnoresSearch)
    (hposition : isBoundary text position = true) {captures : Captures}
    (hfound : r.find text position = .found captures) :
    ∃ start, isBoundary text start = true ∧ position ≤ start ∧
      (∀ later, isBoundary text later = true → position ≤ later → later ≤ start →
        r.find text later = .found captures) ∧
      (r.engine.KeepsStart → captures.start ≤ start) := by
  obtain ⟨count, hcount, rfl⟩ := isBoundary_iff_take.mp hposition
  rw [find_take r hcount] at hfound
  obtain ⟨start, hle, hstart, hagain, hkeeps⟩ := h.exists_of_found hcount hfound
  refine ⟨byteLength (text.take start), isBoundary_iff_take.mpr ⟨start, hstart, rfl⟩,
    byteLength_take_mono _ hle, ?_, hkeeps⟩
  intro later hlater hafter hbefore
  obtain ⟨count', hcount', rfl⟩ := isBoundary_iff_take.mp hlater
  rw [find_take r hcount']
  exact hagain count' (le_of_byteLength_take_le hcount hafter)
    (le_of_byteLength_take_le hcount' hbefore)

/-- Where nothing is found from a boundary, nothing is found from any later one. -/
theorem find_eq_absent_of_le (h : r.engine.IgnoresSearch)
    (hposition : isBoundary text position = true) (habsent : r.find text position = .absent)
    {later : Nat} (hlater : isBoundary text later = true) (hle : position ≤ later) :
    r.find text later = .absent := by
  obtain ⟨count, hcount, rfl⟩ := isBoundary_iff_take.mp hposition
  obtain ⟨count', hcount', rfl⟩ := isBoundary_iff_take.mp hlater
  rw [find_take r hcount] at habsent
  rw [find_take r hcount']
  exact h.find_eq_absent habsent (le_of_byteLength_take_le hcount hle) hcount'

/-- A compiled pattern is the engine of the tree that its text is read as. -/
theorem exists_of_ofText_eq_ok {pattern : List Char} {limits : Limits}
    (h : ofText pattern limits = .ok r) :
    ∃ parsed, ParsedPattern.ofText pattern = .ok parsed ∧
      Engine.ofPattern parsed limits = .ok r.engine := by
  obtain ⟨parsed, hparsed, h⟩ := exists_of_bind_eq_ok h
  refine ⟨parsed, hparsed, ?_⟩
  split at h
  · next engine hengine =>
    obtain rfl := Except.ok.inj h
    exact hengine
  · simp [throw, throwThe, MonadExceptOf.throw] at h

section Attempts

variable {place later : Nat} {captures : Captures}

end Attempts

/-- The verdicts of an engine carry over if its attempts do not see the search and it keeps the
start. -/
theorem carriesOver (h : r.engine.IgnoresSearch) (hkeeps : r.engine.KeepsStart)
    (text : List Char) : RegexEngine.builtIn.CarriesOver r text where
  found hposition hlater hfound hle hstart _ := by
    obtain ⟨start, -, -, hagain, hbound⟩ := exists_of_find_eq_found h hposition hfound
    exact hagain _ hlater hle (hstart.trans (hbound hkeeps))
  absent hposition hlater habsent hle _ := find_eq_absent_of_le h hposition habsent hlater hle

end Regex

namespace Matcher

open Pattern (Unbroken unbroken_cons)

variable {pattern : List Char} {options : Options} {m : Matcher}

/-- A matcher has the engine of the tree that its pattern is read as. -/
theorem exists_of_ofPattern_eq_ok (h : ofPattern pattern options = .ok m) :
    ∃ parsed, ParsedPattern.ofText (options.engineText pattern) = .ok parsed ∧
      Engine.ofPattern parsed options.bounds = .ok m.regex.engine :=
  Regex.exists_of_ofText_eq_ok (eq_of_ofPattern h).1

/-- The flag for line anchors escapes nothing. -/
theorem unbroken_engineText {letter : Char} (h : Unbroken letter pattern) (options : Options) :
    Unbroken letter (options.engineText pattern) := by
  unfold Options.engineText
  split
  · exact h
  · change Unbroken letter ('(' :: '?' :: 'm' :: ')' :: pattern)
    rw [unbroken_cons (by decide), unbroken_cons (by decide), unbroken_cons (by decide),
      unbroken_cons (by decide)]
    exact h

/-- The engine of a pattern that is not tied to the position of the search ignores the search. -/
theorem ignoresSearch (hm : ofPattern pattern options = .ok m)
    (hanchor : Pattern.hasSearchAnchor pattern = false) (hcut : Pattern.cutsEscape pattern = false)
    (hown : m.regex.engine.readsOwnGroups = true) : m.regex.engine.IgnoresSearch := by
  obtain ⟨parsed, hparsed, hengine⟩ := exists_of_ofPattern_eq_ok hm
  have htext := unbroken_engineText ⟨hanchor, hcut⟩ options
  exact Engine.ignoresSearch_ofPattern hengine (ParsedPattern.lacks_of_ofText hparsed htext) hown

/-- The engine of a pattern that does not move the start of the match keeps the start. -/
theorem keepsStart (hm : ofPattern pattern options = .ok m)
    (hmoves : Pattern.movesStart pattern = false) (hcut : Pattern.cutsEscape pattern = false) :
    m.regex.engine.KeepsStart := by
  obtain ⟨parsed, hparsed, hengine⟩ := exists_of_ofPattern_eq_ok hm
  have htext := unbroken_engineText ⟨hmoves, hcut⟩ options
  exact Engine.keepsStart_ofPattern hengine (ParsedPattern.lacks_of_ofText hparsed htext)

/-- The verdicts of a pattern that is not tied to the position of the search and does not move the
start of its match carry over. -/
theorem carriesOver (hm : ofPattern pattern options = .ok m)
    (hanchor : Pattern.hasSearchAnchor pattern = false) (hcut : Pattern.cutsEscape pattern = false)
    (hown : m.regex.engine.readsOwnGroups = true) (hmoves : Pattern.movesStart pattern = false)
    (text : List Char) : RegexEngine.builtIn.CarriesOver m.regex text :=
  Regex.carriesOver (ignoresSearch hm hanchor hcut hown) (keepsStart hm hmoves hcut) text

set_option maxRecDepth 4000 in
/-- Where a plain part leaves the groups of an earlier attempt the answer does not carry over: a
group that took part by accident is lost from a later boundary. -/
theorem searchAfresh_ne_of_readsOwnGroups_eq_false :
    ∃ m, ofPattern "(?=(a)be)c|(?=(d)\x7b0\x7de)e".toList {} = .ok m ∧
      Pattern.hasSearchAnchor "(?=(a)be)c|(?=(d)\x7b0\x7de)e".toList = false ∧
      m.searchAfresh (.ofText ⟨0⟩ "abe".toList .utf16) 0 =
        (.ok (some ⟨[some ⟨2, 3⟩, none, some ⟨0, 1⟩]⟩), []) ∧
      m.searchAfresh (.ofText ⟨0⟩ "abe".toList .utf16) 2 =
        (.ok (some ⟨[some ⟨2, 3⟩, none, none]⟩), []) := by
  have hcompiled : (fun m : Matcher =>
      (m.searchAfresh (.ofText ⟨0⟩ "abe".toList .utf16) 0,
        m.searchAfresh (.ofText ⟨0⟩ "abe".toList .utf16) 2)) <$>
        ofPattern "(?=(a)be)c|(?=(d)\x7b0\x7de)e".toList {} =
      .ok ((.ok (some ⟨[some ⟨2, 3⟩, none, some ⟨0, 1⟩]⟩), []),
        (.ok (some ⟨[some ⟨2, 3⟩, none, none]⟩), [])) := by cbv
  obtain ⟨m, hm, hfacts⟩ := exists_of_map_eq_ok hcompiled
  obtain ⟨hfirst, hlater⟩ := Prod.mk.inj hfacts
  exact ⟨m, hm, rfl, hfirst, hlater⟩

end Matcher

end GrammarScan
