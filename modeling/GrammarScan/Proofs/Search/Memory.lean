import GrammarScan.Proofs.Search.Session

/-!
# Failed searches in memory

A matcher keeps the outcome of its last search whatever that was. A search that the engine gives up,
and one from a position that cuts a character, has no verdict; it is answered as if nothing had been
found, and kept that way. So it is not quite true that the memory does not show: while such a search
is remembered, requests for its own and for later positions of the same buffer are answered from it.

Nothing is assumed here about the positions of earlier searches, and about the engine only that the
verdicts that it does come to carry over.
-/

namespace GrammarScan

namespace Session

variable {E : RegexEngine} {m : Matcher E} {s : Session E} {b : Buffer} {position : Nat}

/-- Whether a session remembers a search without a verdict that was made in a buffer at the given
position or before it. -/
def RecallsFailure (m : Matcher E) (s : Session E) (b : Buffer) (position : Nat) : Prop :=
  ∃ memo, s.matcher.memo = some memo ∧ memo.buffer = b.id ∧ memo.position ≤ position ∧
    ¬ m.HasVerdict b memo.position

namespace Faithful

variable {made : Buffer → Nat → Prop} {first : UInt64}

/-- While a failure is recalled nothing is found. -/
theorem search_of_recallsFailure (h : s.Faithful made m) (hanchored : m.searchAnchored = false)
    (hids : s.desk.CountsFrom first) (hcount : s.desk.buffers.length ≤ UInt64.size)
    (hb : b ∈ s.desk.buffers) (hrecalls : s.RecallsFailure m b position) :
    (s.matcher.search b position).result = .ok none := by
  obtain ⟨memo, hmemo, hbuffer, hle, hlacks⟩ := hrecalls
  obtain ⟨c, hc, hid, -, hmade⟩ := h.recalls memo hmemo
  obtain rfl := hids.eq_of_id_eq hcount hc hb (hid.trans hbuffer)
  have hnone : memo.result = none := Matcher.eq_none_of_not_hasVerdict hlacks hmade
  -- A remembered failure answers every request from its own position on.
  have hanswers : memo.answers c.id position m.searchAnchored = true := by
    simp [Memo.answers, hbuffer, hanchored, hle, hnone]
  rcases h.search_result hids hcount hb position with
    ⟨hmiss, -⟩ | ⟨other, hother, -, -, -, hresult⟩
  · rw [hmiss memo hmemo] at hanswers
    cases hanswers
  · obtain rfl := Option.some.inj (hother.symm.trans hmemo)
    rw [hresult, hnone]

/-- Where no failure is recalled, and verdicts carry over, a search that has a verdict is answered
as without memory. -/
theorem search_of_not_recallsFailure (h : s.Faithful made m) (hanchored : m.searchAnchored = false)
    (hlaws : E.CarriesOver m.regex b.text) (hids : s.desk.CountsFrom first)
    (hcount : s.desk.buffers.length ≤ UInt64.size) (hb : b ∈ s.desk.buffers)
    (hhere : m.HasVerdict b position) (hrecalls : ¬ s.RecallsFailure m b position) :
    (s.matcher.search b position).result = (m.searchAfresh b position).1 := by
  rcases h.search_result hids hcount hb position with
    ⟨-, hfresh⟩ | ⟨memo, hmemo, hanswers, -, hmade, hresult⟩
  · exact hfresh
  · have hverdict : m.HasVerdict b memo.position := by
      by_contra hlacks
      have hcovers := hanswers
      simp only [Memo.answers, hanchored, Bool.false_eq_true, if_false, Bool.and_eq_true,
        decide_eq_true_eq] at hcovers
      exact hrecalls ⟨memo, hmemo, hcovers.1, hcovers.2.1, hlacks⟩
    rw [hresult, Matcher.searchAfresh_eq_of_answers (fun _ => hlaws) (fun _ => hverdict) hmade
      (fun _ => hhere) hanswers]

end Faithful

end Session

/-- In any session, a search that has a verdict is answered as without memory unless the session
recalls a search of the same buffer without a verdict, made at that position or before it; while it
does, nothing is found. -/
theorem session_search_unless_recallsFailure {E : RegexEngine} {pattern : List Char}
    {options : Options} {m : Matcher E} (hm : Matcher.ofPattern pattern options E = .ok m)
    (hanchor : Pattern.hasSearchAnchor pattern = false)
    (id : BufferId) {calls : List Call} (hcount : calls.countP Call.isBuild < UInt64.size)
    {buffer position : Nat} {b : Buffer}
    (hb : ((Session.mk m (.empty id)).after calls).desk.buffers[buffer]? = some b)
    (hlaws : E.CarriesOver m.regex b.text) (hhere : m.HasVerdict b position) :
    (¬ ((Session.mk m (.empty id)).after calls).RecallsFailure m b position →
        (((Session.mk m (.empty id)).after calls).step (.search buffer position)).2 =
          some (m.searchAfresh b position).1) ∧
      (((Session.mk m (.empty id)).after calls).RecallsFailure m b position →
        (((Session.mk m (.empty id)).after calls).step (.search buffer position)).2 =
          some (.ok none)) := by
  have hanchored := (Matcher.eq_of_ofPattern hm).2.2.1.trans hanchor
  have hfaithful := (Session.Faithful.of_ofPattern hm (fun _ _ => True) (.empty id)).after
    (AllSearches.of_forall (fun _ _ => trivial) _ calls)
  obtain ⟨hids, hsize, -⟩ := Desk.of_after_empty id calls hcount
  rw [← Session.after_desk ⟨m, .empty id⟩] at hids hsize
  have hmem := List.mem_of_getElem? hb
  simp only [Session.step, hb]
  exact ⟨fun h => congrArg some (hfaithful.search_of_not_recallsFailure hanchored hlaws hids
      hsize hmem hhere h),
    fun h => congrArg some (hfaithful.search_of_recallsFailure hanchored hids hsize hmem h)⟩

/-- A search that may go back twice is given up from the start of the text. From there on nothing is
found, until the memory is reset. -/
theorem session_search_unless_recallsFailure_limit :
    ∃ m, Matcher.ofPattern "(?=a)a".toList { backtrackLimit := some 2 } = .ok m ∧
      (((Session.mk m (.empty ⟨0⟩)).after
        [.build (.text "xxxa".toList .utf16), .search 0 0]).step (.search 0 3)).2 =
          some (.ok none) ∧
      (((Session.mk m (.empty ⟨0⟩)).after
        [.build (.text "xxxa".toList .utf16), .search 0 0, .reset]).step (.search 0 3)).2 =
          some (.ok (some ⟨[some ⟨3, 4⟩]⟩)) := by
  have hcompiled : (fun m : Matcher => (m.regex.engine.readsOwnGroups,
      decide (m.HasVerdict (.ofText ⟨0⟩ "xxxa".toList .utf16) 0),
      decide (m.HasVerdict (.ofText ⟨0⟩ "xxxa".toList .utf16) 3),
      ((Session.mk m (.empty ⟨0⟩)).after
        [.build (.text "xxxa".toList .utf16), .search 0 0]).matcher.memo,
      ((Session.mk m (.empty ⟨0⟩)).after
        [.build (.text "xxxa".toList .utf16), .search 0 0, .reset]).matcher.memo,
      (m.searchAfresh (.ofText ⟨0⟩ "xxxa".toList .utf16) 3).1)) <$>
        Matcher.ofPattern "(?=a)a".toList { backtrackLimit := some 2 } =
      .ok (true, false, true, some ⟨⟨0⟩, 0, none⟩, none, .ok (some ⟨[some ⟨3, 4⟩]⟩)) := by cbv
  obtain ⟨m, hm, hfacts⟩ := exists_of_map_eq_ok hcompiled
  simp only [Prod.mk.injEq, decide_eq_true_eq, decide_eq_false_iff_not] at hfacts
  obtain ⟨hown, hlacks, hhere, hmemo, hreset, hfresh⟩ := hfacts
  have hlaws := Matcher.carriesOver hm rfl rfl hown rfl "xxxa".toList
  refine ⟨m, hm, ?_, ?_⟩
  · refine (session_search_unless_recallsFailure hm rfl ⟨0⟩
      (b := .ofText ⟨0⟩ "xxxa".toList .utf16) (by decide) ?_ hlaws hhere).2
      ⟨_, hmemo, rfl, Nat.zero_le 3, hlacks⟩
    rw [Session.after_desk]
    rfl
  · rw [← hfresh]
    refine (session_search_unless_recallsFailure hm rfl ⟨0⟩
      (b := .ofText ⟨0⟩ "xxxa".toList .utf16) (by decide) ?_ hlaws hhere).1 ?_
    · rw [Session.after_desk]
      rfl
    · rintro ⟨memo, hmemo, -⟩
      rw [hreset] at hmemo
      cases hmemo

/-- A failed search is taken for evidence: after a search that was given up, and after one from a
position that cuts a character, a match at a later boundary is missed, although the verdicts of the
engine carry over. -/
theorem session_run_ne_answersAfresh_of_not_hasVerdict :
    ∃ m, Matcher.ofPattern "(?=a)a".toList { backtrackLimit := some 2 } = .ok m ∧
      Pattern.hasSearchAnchor "(?=a)a".toList = false ∧
      (∀ text, RegexEngine.builtIn.CarriesOver m.regex text) ∧
      ¬ m.HasVerdict (.ofText ⟨0⟩ "xxxa".toList .utf16) 0 ∧
      ¬ m.HasVerdict (.ofText ⟨1⟩ "éa".toList .utf16) 1 ∧
      (Session.mk m (.empty ⟨0⟩)).run [.build (.text "xxxa".toList .utf16),
          .build (.text "éa".toList .utf16), .search 0 0, .search 0 3, .search 1 1, .search 1 2] =
        [none, none, some (.ok none), some (.ok none), some (.ok none), some (.ok none)] ∧
      (m.searchAfresh (.ofText ⟨0⟩ "xxxa".toList .utf16) 3).1 =
        .ok (some ⟨[some ⟨3, 4⟩]⟩) ∧
      (m.searchAfresh (.ofText ⟨1⟩ "éa".toList .utf16) 2).1 = .ok (some ⟨[some ⟨2, 3⟩]⟩) := by
  have hcompiled : (fun m : Matcher => (m.regex.engine.readsOwnGroups,
      decide (m.HasVerdict (.ofText ⟨0⟩ "xxxa".toList .utf16) 0),
      decide (m.HasVerdict (.ofText ⟨1⟩ "éa".toList .utf16) 1),
      (Session.mk m (.empty ⟨0⟩)).run [.build (.text "xxxa".toList .utf16),
          .build (.text "éa".toList .utf16), .search 0 0, .search 0 3, .search 1 1, .search 1 2],
      (m.searchAfresh (.ofText ⟨0⟩ "xxxa".toList .utf16) 3).1,
      (m.searchAfresh (.ofText ⟨1⟩ "éa".toList .utf16) 2).1)) <$>
        Matcher.ofPattern "(?=a)a".toList { backtrackLimit := some 2 } =
      .ok (true, false, false,
        [none, none, some (.ok none), some (.ok none), some (.ok none), some (.ok none)],
        .ok (some ⟨[some ⟨3, 4⟩]⟩), .ok (some ⟨[some ⟨2, 3⟩]⟩)) := by cbv
  obtain ⟨m, hm, hfacts⟩ := exists_of_map_eq_ok hcompiled
  simp only [Prod.mk.injEq, decide_eq_false_iff_not] at hfacts
  obtain ⟨hown, haborted, hcut, hrun, hfirst, hsecond⟩ := hfacts
  exact ⟨m, hm, rfl, Matcher.carriesOver hm rfl rfl hown rfl, haborted, hcut, hrun, hfirst,
    hsecond⟩

end GrammarScan
