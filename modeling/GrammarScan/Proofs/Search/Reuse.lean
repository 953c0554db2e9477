import GrammarScan.Proofs.Regex.Reuse

/-!
# Answers that may be repeated

A matcher repeats a match for searches up to its start, and the lack of one for all later searches.
An engine that makes one attempt after another, where no attempt sees the search that it belongs to,
allows for more and for less: the match stays the same up to where its attempt began. The two places
agree unless the start of the match is moved away from there. That is what the escape `\K` does, and
then a match is repeated where a search would not find it.
-/

namespace GrammarScan.Matcher

variable {E : RegexEngine} {m : Matcher E} {b : Buffer} {position : Nat}

end GrammarScan.Matcher

namespace GrammarScan.RegexEngine.MakesAttempts

variable {E : RegexEngine} {r : E.Regex} {text : List Char} {attempt : Nat → Option Captures}
  {place later : Nat} {captures : Captures}

end GrammarScan.RegexEngine.MakesAttempts

namespace GrammarScan.Matcher

/-- Where the start of the match is moved the answer does not carry over to it: the memory repeats a
match that a search without memory does not find. -/
theorem search_ne_searchAfresh_of_movesStart :
    ∃ m, ofPattern "a\\Kb".toList {} = .ok m ∧
      Pattern.hasSearchAnchor "a\\Kb".toList = false ∧
      ((m.search (.ofText ⟨0⟩ "ab".toList .utf16) 0).state.search
        (.ofText ⟨0⟩ "ab".toList .utf16) 1).result = .ok (some ⟨[some ⟨1, 2⟩]⟩) ∧
      m.searchAfresh (.ofText ⟨0⟩ "ab".toList .utf16) 1 = (.ok none, []) := by
  have hcompiled : (fun m : Matcher =>
      (((m.search (.ofText ⟨0⟩ "ab".toList .utf16) 0).state.search
          (.ofText ⟨0⟩ "ab".toList .utf16) 1).result,
        m.searchAfresh (.ofText ⟨0⟩ "ab".toList .utf16) 1)) <$>
        ofPattern "a\\Kb".toList {} =
      .ok (.ok (some ⟨[some ⟨1, 2⟩]⟩), (.ok none, [])) := by cbv
  obtain ⟨m, hm, hfacts⟩ := exists_of_map_eq_ok hcompiled
  obtain ⟨hsearch, hafresh⟩ := Prod.mk.inj hfacts
  exact ⟨m, hm, rfl, hsearch, hafresh⟩

end GrammarScan.Matcher
