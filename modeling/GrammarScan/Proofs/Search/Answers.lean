import GrammarScan.Proofs.Search.Scanning

/-!
# Captures that are handed out

Memory only repeats what was found in the same buffer, and a scanner only hands on what one of its
matchers found. So if an engine reports well-formed captures, those of any answer in any session are
well-formed for the buffer that was searched, whatever was asked before. Where they start ahead of
the position that they were found from, they do so for every position that they are repeated for.
-/

namespace GrammarScan

/-! ## Sessions with a matcher -/

namespace Session

variable {E : RegexEngine} {m : Matcher E} {s : Session E}

/-- What a faithful session finds was found without memory in the same buffer, at the position of
the search or at one from which it lies ahead as well. -/
theorem Faithful.exists_of_search_eq_some {made : Buffer → Nat → Prop} {first : UInt64}
    (h : s.Faithful made m) (hids : s.desk.CountsFrom first)
    (hcount : s.desk.buffers.length ≤ UInt64.size) {b : Buffer} (hb : b ∈ s.desk.buffers)
    {position : Nat} {captures : Captures}
    (hresult : (s.matcher.search b position).result = .ok (some captures)) :
    ∃ origin, (m.searchAfresh b origin).1 = .ok (some captures) ∧
      (origin = position ∨ position ≤ captures.start) := by
  rcases h.search_result hids hcount hb position with
    ⟨-, hfresh⟩ | ⟨memo, -, hanswers, -, hmade, hkept⟩
  · exact ⟨position, hfresh.symm.trans hresult, .inl rfl⟩
  · rw [hkept, Except.ok.injEq] at hresult
    rw [hresult] at hmade
    refine ⟨memo.position, hmade, ?_⟩
    cases hanchored : m.searchAnchored with
    | true =>
      simp only [Memo.answers, hanchored, if_true, Bool.and_eq_true, decide_eq_true_eq] at hanswers
      exact .inl hanswers.2
    | false =>
      simp only [Memo.answers, hanchored, Bool.false_eq_true, if_false, hresult, Option.all_some,
        Bool.and_eq_true, decide_eq_true_eq] at hanswers
      exact .inr hanswers.2.2

/-- What a faithful session finds is well-formed if the engine reports it that way, and starts where
the search begins or behind it if the engine finds matches ahead. -/
theorem Faithful.wellFormed {made : Buffer → Nat → Prop} {first : UInt64}
    (h : s.Faithful made m) (hids : s.desk.CountsFrom first)
    (hcount : s.desk.buffers.length ≤ UInt64.size) {b : Buffer} (hb : b ∈ s.desk.buffers)
    (hranges : E.ReportsWellFormed m.regex b.text) {position : Nat} {captures : Captures}
    (hresult : (s.matcher.search b position).result = .ok (some captures)) :
    captures.WellFormed b.text ∧ (E.FindsAhead m.regex b.text → position ≤ captures.start) := by
  obtain ⟨origin, hmade, hplace⟩ := h.exists_of_search_eq_some hids hcount hb hresult
  obtain ⟨horigin, hfound⟩ := Matcher.find_eq_found hmade
  refine ⟨hranges horigin hfound, fun hahead => ?_⟩
  rcases hplace with rfl | hle
  · exact hahead horigin hfound
  · exact hle

/-- An answer with captures is that of a search at the place that the request is about. -/
theorem exists_place_of_step {call : Call} {captures : Captures}
    (h : (s.step call).2 = some (.ok (some captures))) :
    ∃ b position, call.place? s.desk = some (b, position) ∧ b ∈ s.desk.buffers ∧
      (s.matcher.search b position).result = .ok (some captures) := by
  rcases s.step_cases call with ⟨b, hb, position, hplace, hstep, -⟩ | ⟨-, -, -, hnone⟩
  · rw [hstep] at h
    exact ⟨b, position, hplace, hb, Option.some.inj h⟩
  · exact absurd h (hnone _)

end Session

/-! ## Sessions with a scanner -/

/-- What a round finds is what it had found before or what one of the matchers finds. -/
theorem exists_of_scanFrom_eq_some {E : RegexEngine} {b : Buffer} {position index : Nat}
    {best : Option ScanMatch} {ms : List (Matcher E)} {found : ScanMatch}
    (h : (scanFrom b position index best ms).result = .ok (some found)) :
    best = some found ∨ ∃ i m, ms[i]? = some m ∧ found.index = index + i ∧
      (m.search b position).result = .ok (some found.captures) := by
  induction ms generalizing index best with
  | nil => exact .inl (Except.ok.inj h)
  | cons m rest ih =>
    have hlater {best : Option ScanMatch}
        (h : (scanFrom b position (index + 1) best rest).result = .ok (some found)) :
        best = some found ∨ ∃ i n, (m :: rest)[i]? = some n ∧ found.index = index + i ∧
          (n.search b position).result = .ok (some found.captures) := by
      refine (ih h).imp_right ?_
      rintro ⟨i, n, hn, hindex, hresult⟩
      exact ⟨i + 1, n, hn, by omega, hresult⟩
    cases hm : (m.search b position).result with
    | error fault => simp [scanFrom, hm, Reply.map, Reply.mapState] at h
    | ok result =>
      cases result with
      | none =>
        rw [scanFrom_absent hm] at h
        exact hlater h
      | some captures =>
        have hhere : ∃ i n, (m :: rest)[i]? = some n ∧ index = index + i ∧
            (n.search b position).result = .ok (some captures) := ⟨0, m, rfl, rfl, hm⟩
        cases hprecedes : (ScanMatch.mk index captures).precedes best with
        | false =>
          rw [scanFrom_not_precedes hm hprecedes] at h
          exact hlater h
        | true =>
          by_cases hstart : captures.start = position
          · rw [scanFrom_atPosition hm hprecedes hstart] at h
            simp only [Reply.map, Reply.mapState, Except.ok.injEq, Option.some.injEq] at h
            subst h
            exact .inr hhere
          · rw [scanFrom_precedes hm hprecedes hstart] at h
            rcases hlater h with heq | hother
            · obtain rfl := Option.some.inj heq
              exact .inr hhere
            · exact .inr hother

namespace ScannerSession

variable {E : RegexEngine} {compiled : Scanner E} {s : ScannerSession E}

/-- What a round of a faithful session finds is well-formed if the engine reports it that way, and
starts where the round begins or behind it if the engine finds matches ahead. -/
theorem Faithful.wellFormed {made : Matcher E → Buffer → Nat → Prop} {first : UInt64}
    (h : s.Faithful made compiled) (hids : s.desk.CountsFrom first)
    (hcount : s.desk.buffers.length ≤ UInt64.size)
    (hranges : ∀ m ∈ compiled.matchers, ∀ text, E.ReportsWellFormed m.regex text) {round : Round}
    {found : ScanMatch} (hstep : (s.step round).2 = some (.ok (some found))) :
    ∃ b position m, round.call.place? s.desk = some (b, position) ∧ b ∈ s.desk.buffers ∧
      compiled.matchers[found.index]? = some m ∧ found.captures.WellFormed b.text ∧
      (E.FindsAhead m.regex b.text → position ≤ found.captures.start) := by
  cases round with
  | build source => simp [ScannerSession.step] at hstep
  | find buffer position =>
    simp only [ScannerSession.step] at hstep
    cases hb : s.desk.buffers[buffer]? with
    | none => simp [hb] at hstep
    | some b =>
      simp only [hb, Option.some.injEq] at hstep
      have hmem := List.mem_of_getElem? hb
      obtain ⟨i, m, hm, hindex, hresult⟩ :=
        (exists_of_scanFrom_eq_some hstep).resolve_left (by simp)
      obtain ⟨m₀, hm₀, hfaithful⟩ := FaithfulMatchers.exists_of_getElem? h hm
      rw [Nat.zero_add] at hindex
      exact ⟨b, position, m₀, by simp [Round.call, Call.place?, hb], hmem, hindex ▸ hm₀,
        hfaithful.wellFormed hids hcount hmem (hranges m₀ (List.mem_of_getElem? hm₀) b.text)
          hresult⟩

end ScannerSession

/-- If the engine reports well-formed captures, those that a matcher or a scanner answers in any
session serve for the buffer that was searched; and the match starts at the position of the search
or behind it if the engine finds the matches of its pattern ahead. -/
theorem found_captures_serveFor {E : RegexEngine} {pattern : List Char}
    {patterns : List (List Char)} {options : Options} {m : Matcher E} {s : Scanner E}
    (hm : Matcher.ofPattern pattern options E = .ok m)
    (hs : Scanner.ofPatterns patterns options E = .ok s)
    (hranges : ∀ m' ∈ m :: s.matchers, ∀ text, E.ReportsWellFormed m'.regex text) (id : BufferId)
    {calls : List Call} (hcalls : calls.countP Call.isBuild < UInt64.size) {rounds : List Round}
    (hrounds : rounds.countP (·.call.isBuild) < UInt64.size) :
    (∀ call captures,
      (((Session.mk m (.empty id)).after calls).step call).2 = some (.ok (some captures)) →
      ∃ b position, call.place? ((Session.mk m (.empty id)).after calls).desk = some (b, position) ∧
        captures.ServeFor b ∧ (E.FindsAhead m.regex b.text → position ≤ captures.start)) ∧
    ∀ round found,
      (((ScannerSession.mk s (.empty id)).after rounds).step round).2 = some (.ok (some found)) →
      ∃ b position m',
        round.call.place? ((ScannerSession.mk s (.empty id)).after rounds).desk =
          some (b, position) ∧
        s.matchers[found.index]? = some m' ∧ found.captures.ServeFor b ∧
        (E.FindsAhead m'.regex b.text → position ≤ found.captures.start) := by
  obtain ⟨hmatcher, hscanner⟩ := List.forall_mem_cons.mp hranges
  constructor
  · intro call captures hstep
    have hfaithful := (Session.Faithful.of_ofPattern hm (fun _ _ => True) (.empty id)).after
      (AllSearches.of_forall (fun _ _ => trivial) _ calls)
    obtain ⟨hids, hsize, hmaps⟩ := Desk.of_after_empty id calls hcalls
    rw [← Session.after_desk ⟨m, .empty id⟩] at hids hsize hmaps
    obtain ⟨b, position, hplace, hb, hresult⟩ := Session.exists_place_of_step hstep
    obtain ⟨hwell, hstart⟩ := hfaithful.wellFormed hids hsize hb (hmatcher b.text) hresult
    exact ⟨b, position, hplace, hwell.serveFor (hmaps b hb), hstart⟩
  · intro round found hstep
    have hbegins : (ScannerSession.mk s (.empty id)).Faithful (fun _ _ _ => True) s :=
      FaithfulMatchers.of_ofPatterns hs _ _
    have hfaithful := hbegins.after
      (AllSearches.of_forall (fun _ _ _ _ => trivial) _ (rounds.map Round.call))
    obtain ⟨hids, hsize, hmaps⟩ :=
      Desk.of_after_empty id (rounds.map Round.call) (by rwa [List.countP_map])
    rw [← ScannerSession.after_desk ⟨s, .empty id⟩] at hids hsize hmaps
    obtain ⟨b, position, m', hplace, hb, hm', hwell, hstart⟩ :=
      hfaithful.wellFormed hids hsize hscanner hstep
    exact ⟨b, position, m', hplace, hm', hwell.serveFor (hmaps b hb), hstart⟩

set_option maxRecDepth 4000 in
/-- A match behind a character of two bytes, with a group that took no part and a start that was
moved ahead: found by a scanner, and by a matcher that has found it before. -/
theorem found_captures_serveFor_accent :
    ∃ m s, Matcher.ofPattern "(?<=é)(b)?\\K(a)".toList {} = .ok m ∧
      Scanner.ofPatterns ["b".toList, "(?<=é)(b)?\\K(a)".toList] {} = .ok s ∧
      (((Session.mk m (.empty ⟨0⟩)).after
        [.build (.text "xéa".toList .utf16), .search 0 0]).step (.search 0 1)).2 =
          some (.ok (some ⟨[some ⟨3, 4⟩, none, some ⟨3, 4⟩]⟩)) ∧
      (((ScannerSession.mk s (.empty ⟨0⟩)).after
        [.build (.text "xéa".toList .utf16)]).step (.find 0 1)).2 =
          some (.ok (some ⟨1, ⟨[some ⟨3, 4⟩, none, some ⟨3, 4⟩]⟩⟩)) ∧
      (Captures.mk [some ⟨3, 4⟩, none, some ⟨3, 4⟩]).ServeFor
        (.ofText ⟨0⟩ "xéa".toList .utf16) ∧
      1 ≤ (Captures.mk [some ⟨3, 4⟩, none, some ⟨3, 4⟩]).start := by
  have hcompiled : (fun m : Matcher => (((Session.mk m (.empty ⟨0⟩)).after
        [.build (.text "xéa".toList .utf16), .search 0 0]).step (.search 0 1)).2) <$>
        Matcher.ofPattern "(?<=é)(b)?\\K(a)".toList {} =
      .ok (some (.ok (some ⟨[some ⟨3, 4⟩, none, some ⟨3, 4⟩]⟩))) := by cbv
  have hscanner : (fun s : Scanner => (((ScannerSession.mk s (.empty ⟨0⟩)).after
        [.build (.text "xéa".toList .utf16)]).step (.find 0 1)).2) <$>
        Scanner.ofPatterns ["b".toList, "(?<=é)(b)?\\K(a)".toList] {} =
      .ok (some (.ok (some ⟨1, ⟨[some ⟨3, 4⟩, none, some ⟨3, 4⟩]⟩⟩))) := by cbv
  obtain ⟨m, hm, hanswer⟩ := exists_of_map_eq_ok hcompiled
  obtain ⟨s, hs, hround⟩ := exists_of_map_eq_ok hscanner
  have hcalls : [Call.build (.text "xéa".toList .utf16), .search 0 0].countP Call.isBuild <
      UInt64.size := by decide
  have hrounds : [Round.build (.text "xéa".toList .utf16)].countP (·.call.isBuild) <
      UInt64.size := by decide
  have hranges : ∀ m' ∈ m :: s.matchers, ∀ text,
      RegexEngine.builtIn.ReportsWellFormed m'.regex text := by
    refine List.forall_mem_cons.mpr ⟨Matcher.reportsWellFormed hm, fun m' hm' => ?_⟩
    obtain ⟨pattern, -, hpattern⟩ := Scanner.exists_of_mem hs hm'
    exact Matcher.reportsWellFormed hpattern
  obtain ⟨hmatcher, hfound⟩ := found_captures_serveFor hm hs hranges ⟨0⟩ hcalls hrounds
  obtain ⟨b, position, hplace, hserves, -⟩ := hmatcher _ _ hanswer
  obtain ⟨b', position', m', hplace', hm', -, hstart⟩ := hfound _ _ hround
  refine ⟨m, s, hm, hs, hanswer, hround, ?_, ?_⟩
  · rw [Session.after_desk] at hplace
    obtain ⟨rfl, -⟩ := Prod.mk.inj (Option.some.inj hplace)
    exact hserves
  · obtain ⟨rfl, rfl⟩ := Prod.mk.inj (Option.some.inj hplace')
    obtain ⟨matchers, hmatchers, rfl⟩ := exists_of_map_eq_ok hs
    obtain ⟨pattern, hpattern, hcompiled⟩ := exists_of_mapM_eq_ok hmatchers hm'
    obtain rfl := Option.some.inj hpattern
    exact hstart (Matcher.findsAhead hcompiled (by cbv) _)

set_option maxRecDepth 4000 in
/-- Inside of a look-behind the start of a match is moved to before the position of the search. -/
theorem Matcher.start_lt_of_movesStartBack :
    ∃ m, ofPattern "(?<=\\Kab)c".toList {} = .ok m ∧
      Options.movesStartBack {} "(?<=\\Kab)c".toList = true ∧
      (m.search (.ofText ⟨0⟩ "abc".toList .utf16) 2).result = .ok (some ⟨[some ⟨0, 3⟩]⟩) := by
  have hcompiled : (fun m : Matcher =>
      (m.search (.ofText ⟨0⟩ "abc".toList .utf16) 2).result) <$>
        ofPattern "(?<=\\Kab)c".toList {} = .ok (.ok (some ⟨[some ⟨0, 3⟩]⟩)) := by cbv
  obtain ⟨m, hm, hfound⟩ := exists_of_map_eq_ok hcompiled
  exact ⟨m, hm, by cbv, hfound⟩

end GrammarScan
