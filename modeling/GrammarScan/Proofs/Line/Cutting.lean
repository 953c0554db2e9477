import GrammarScan.Line.Tokens
import GrammarScan.Proofs.Search.Scanning

/-!
# Cutting a line into tokens

A line is cut by one round of a scanner after another, each of them where the match before ended, or
one character further if that match did not lead forward. Every round begins behind the one before
it, at a boundary again, so there is at most one for each boundary of the line, and the tokens lie
behind each other without overlapping.

What the memories of the scanner hold does not matter. A round is answered as a scanner without
memory calls for, so that the rounds are determined by the line; they are the same if all memories
are cleared before each of them, and whatever the scanner was used for before.

Of the engine it is assumed that it can be relied on for every pattern, and that the captures it
reports are well-formed; of searches, that they come to verdicts where the scanner was used before
and at the boundaries of the line.
-/

namespace GrammarScan

/-- A round of cutting: where it begins, and the token that it finds. -/
structure Cut where
  position : Nat
  token : Option ScanMatch

/-- The tokens of some rounds. -/
def tokensOf (cuts : List Cut) : List ScanMatch := cuts.filterMap Cut.token

namespace Scanner

variable {E : RegexEngine}

/-- The scanner with all memories cleared. -/
def cleared (s : Scanner E) : Scanner E := ⟨s.matchers.map Matcher.reset⟩

/-- All rounds of cutting a buffer from a position on, where something is done to the scanner before
each of them. -/
def cuts (prepare : Scanner E → Scanner E) (buffer : Buffer) (position : Nat) (s : Scanner E) :
    Except Fault (List Cut) :=
  if buffer.byteLength < position then .ok []
  else
    let reply := (prepare s).findNext buffer position
    match reply.result with
    | .error fault => .error fault
    | .ok none => .ok [⟨position, none⟩]
    | .ok (some token) =>
      (cuts prepare buffer (nextPosition buffer.text position token.captures.stop) reply.state).map
        (⟨position, some token⟩ :: ·)
termination_by buffer.byteLength + 1 - position
decreasing_by
  have hlt := lt_nextPosition buffer.text position token.captures.stop
  omega

/-- The rounds of cutting a buffer from a position on, each of them answered as a scanner without
memory calls for. -/
inductive Cutting (s : Scanner E) (b : Buffer) : Nat → List Cut → Prop
  | pastEnd {position : Nat} : b.byteLength < position → Cutting s b position []
  | absent {position : Nat} : position ≤ b.byteLength → s.Calls b position none →
    Cutting s b position [⟨position, none⟩]
  | token {position : Nat} {token : ScanMatch} {rest : List Cut} : position ≤ b.byteLength →
    s.Calls b position (some token) →
    Cutting s b (nextPosition b.text position token.captures.stop) rest →
    Cutting s b position (⟨position, some token⟩ :: rest)

end Scanner

/-! ## Places where rounds begin -/

/-- A text has one boundary more than it has characters. -/
theorem length_le_of_forall_isBoundary {s : List Char} {offsets : List Nat} (hnodup : offsets.Nodup)
    (h : ∀ offset ∈ offsets, isBoundary s offset = true) : offsets.length ≤ s.length + 1 := by
  have hsubset : offsets ⊆
      (List.range (s.length + 1)).map fun count => byteLength (s.take count) := by
    intro offset hoffset
    obtain ⟨count, hcount, rfl⟩ := isBoundary_iff_take.mp (h offset hoffset)
    exact List.mem_map.mpr ⟨count, List.mem_range.mpr (Nat.lt_succ_of_le hcount), rfl⟩
  simpa using (List.subperm_of_subset hnodup hsubset).length_le

/-- Scanning goes on no earlier than where the match ended. -/
theorem le_nextPosition (text : List Char) (position stop : Nat) :
    stop ≤ nextPosition text position stop := by
  unfold nextPosition
  split <;> omega

/-- Scanning goes on at a boundary again, or it has left the text. -/
theorem isBoundary_nextPosition {text : List Char} {position stop : Nat}
    (hposition : isBoundary text position = true) (hstop : isBoundary text stop = true) :
    isBoundary text (nextPosition text position stop) = true ∨
      byteLength text < nextPosition text position stop := by
  unfold nextPosition
  split
  · exact .inl hstop
  · obtain ⟨front, back, rfl, rfl⟩ := isBoundary_iff.mp hposition
    rw [stepAt, splitAtByte?_append]
    cases back with
    | nil =>
      right
      simp
    | cons c rest =>
      left
      have hfront : byteLength front + c.utf8Size = byteLength (front ++ [c]) := by
        simp [byteLength]
      exact isBoundary_iff.mpr ⟨front ++ [c], rest, by simp, hfront.symm⟩

namespace Scanner

variable {E : RegexEngine}

/-- What is known of the matches that a scanner has in a buffer without memory: they begin where the
search does or behind it, and end at a boundary behind their start. -/
def FindsWithin (s : Scanner E) (b : Buffer) : Prop :=
  ∀ {position found}, ScanMatch.IsOffered b position 0 s.matchers found →
    position ≤ found.captures.start ∧ found.captures.start ≤ found.captures.stop ∧
      isBoundary b.text found.captures.stop = true

/-- A scanner finds its matches within the buffer if the engine finds them ahead and reports
well-formed captures. -/
theorem findsWithin_of_reportsWellFormed {s : Scanner E} {b : Buffer}
    (hahead : ∀ m ∈ s.matchers, E.FindsAhead m.regex b.text)
    (hranges : ∀ m ∈ s.matchers, E.ReportsWellFormed m.regex b.text) : s.FindsWithin b := by
  rintro position found ⟨i, m, hm, -, hfresh⟩
  have hmem := List.mem_of_getElem? hm
  obtain ⟨hposition, hfound⟩ := Matcher.find_eq_found hfresh
  have hwell : found.captures.WellFormed b.text := hranges m hmem hposition hfound
  exact ⟨hahead m hmem hposition hfound, hwell.range_le.1, hwell.isBoundary_stop⟩

/-- At most one answer is called for. -/
theorem Calls.unique {s : Scanner E} {b : Buffer} {position : Nat} {answer other : Option ScanMatch}
    (h : s.Calls b position answer) (h' : s.Calls b position other) : answer = other := by
  cases answer with
  | none => exact (h'.eq_none_iff.mpr (h.eq_none_iff.mp rfl)).symm
  | some found => exact ((h'.eq_some_iff found).mpr ((h.eq_some_iff found).mp rfl)).symm

namespace Cutting

variable {s : Scanner E} {b : Buffer} {position : Nat} {cuts others : List Cut}

/-- The rounds are determined by where the first of them begins. -/
theorem unique (h : s.Cutting b position cuts) (h' : s.Cutting b position others) :
    cuts = others := by
  induction h generalizing others with
  | pastEnd hlt =>
    cases h' with
    | pastEnd _ => rfl
    | absent hle _ => omega
    | token hle _ _ => omega
  | absent hle hcalls =>
    cases h' with
    | pastEnd hlt => omega
    | absent _ _ => rfl
    | token _ hother _ => cases hcalls.unique hother
  | token hle hcalls _ ih =>
    cases h' with
    | pastEnd hlt => omega
    | absent _ hother => cases hcalls.unique hother
    | token _ hother hrest =>
      cases hcalls.unique hother
      rw [ih hrest]

/-- No round begins before the first. -/
theorem le_position (h : s.Cutting b position cuts) : ∀ cut ∈ cuts, position ≤ cut.position := by
  induction h with
  | pastEnd hlt => simp
  | absent hle hcalls => simp
  | @token position token rest hle hcalls hrest ih =>
    refine List.forall_mem_cons.mpr ⟨Nat.le_refl _, fun cut hcut => ?_⟩
    exact (lt_nextPosition b.text position token.captures.stop).le.trans (ih cut hcut)

/-- Every round begins behind the one before it. -/
theorem increasing (h : s.Cutting b position cuts) : (cuts.map Cut.position).Pairwise (· < ·) := by
  induction h with
  | pastEnd hlt => exact .nil
  | absent hle hcalls => exact List.pairwise_singleton _ _
  | @token position token rest hle hcalls hrest ih =>
    refine List.pairwise_cons.mpr ⟨fun later hlater => ?_, ih⟩
    obtain ⟨cut, hcut, rfl⟩ := List.mem_map.mp hlater
    have hlt := lt_nextPosition b.text position token.captures.stop
    exact hlt.trans_le (hrest.le_position cut hcut)

/-- Every round begins at a boundary if the first one does. -/
theorem isBoundary (h : s.Cutting b position cuts) (hwithin : s.FindsWithin b)
    (hposition : isBoundary b.text position = true ∨ b.byteLength < position) :
    ∀ cut ∈ cuts, GrammarScan.isBoundary b.text cut.position = true := by
  induction h with
  | pastEnd hlt => simp
  | absent hle hcalls => simpa using hposition.resolve_right (by omega)
  | @token position token rest hle hcalls hrest ih =>
    have hhere := hposition.resolve_right (by omega)
    obtain ⟨-, -, hstop⟩ := hwithin ((hcalls.eq_some_iff token).mp rfl).1
    exact List.forall_mem_cons.mpr ⟨hhere, ih (isBoundary_nextPosition hhere hstop)⟩

/-- There are no more rounds than boundaries. -/
theorem length_le (h : s.Cutting b position cuts) (hwithin : s.FindsWithin b)
    (hposition : GrammarScan.isBoundary b.text position = true ∨ b.byteLength < position) :
    cuts.length ≤ b.text.length + 1 := by
  have hboundaries : ∀ offset ∈ cuts.map Cut.position,
      GrammarScan.isBoundary b.text offset = true := by
    rw [List.forall_mem_map]
    exact h.isBoundary hwithin hposition
  simpa using length_le_of_forall_isBoundary (h.increasing.imp Nat.ne_of_lt) hboundaries

/-- No token starts before the first round. -/
theorem le_start (h : s.Cutting b position cuts) (hwithin : s.FindsWithin b) :
    ∀ token ∈ tokensOf cuts, position ≤ token.captures.start := by
  induction h with
  | pastEnd hlt => simp [tokensOf]
  | absent hle hcalls => simp [tokensOf]
  | @token position token rest hle hcalls hrest ih =>
    obtain ⟨hstart, -, -⟩ := hwithin ((hcalls.eq_some_iff token).mp rfl).1
    refine List.forall_mem_cons.mpr ⟨hstart, fun later hlater => ?_⟩
    exact (lt_nextPosition b.text position token.captures.stop).le.trans (ih later hlater)

/-- No token ends before it starts. -/
theorem start_le_stop (h : s.Cutting b position cuts) (hwithin : s.FindsWithin b) :
    ∀ token ∈ tokensOf cuts, token.captures.start ≤ token.captures.stop := by
  induction h with
  | pastEnd hlt => simp [tokensOf]
  | absent hle hcalls => simp [tokensOf]
  | @token position token rest hle hcalls hrest ih =>
    obtain ⟨-, hrange, -⟩ := hwithin ((hcalls.eq_some_iff token).mp rfl).1
    exact List.forall_mem_cons.mpr ⟨hrange, ih⟩

/-- Every token starts where the ones before it end or behind. -/
theorem disjoint (h : s.Cutting b position cuts) (hwithin : s.FindsWithin b) :
    (tokensOf cuts).Pairwise fun token later => token.captures.stop ≤ later.captures.start := by
  induction h with
  | pastEnd hlt => exact .nil
  | absent hle hcalls => exact .nil
  | @token position token rest hle hcalls hrest ih =>
    refine List.pairwise_cons.mpr ⟨fun later hlater => ?_, ih⟩
    exact (le_nextPosition b.text position token.captures.stop).trans
      (hrest.le_start hwithin later hlater)

end Cutting

/-- At most `count` tokens of a buffer are the first ones of all rounds. -/
theorem result_tokensFrom {b : Buffer} {position : Nat} {s : Scanner E} {rounds : List Cut}
    (h : s.cuts (fun s => s) b position = .ok rounds) (count : Nat) :
    (tokensFrom b count position s).result = .ok ((tokensOf rounds).take count) := by
  induction count generalizing position s rounds with
  | zero => rfl
  | succ count ih =>
    rw [cuts] at h
    rw [tokensFrom]
    split at h
    · next hlt =>
      rw [if_pos hlt]
      obtain rfl := Except.ok.inj h
      rfl
    · next hle =>
      rw [if_neg hle]
      dsimp only at h ⊢
      cases hresult : (s.findNext b position).result with
      | error fault => simp [hresult] at h
      | ok answer =>
        rw [hresult] at h
        cases answer with
        | none =>
          obtain rfl := Except.ok.inj h
          rfl
        | some token =>
          obtain ⟨rest, hrest, rfl⟩ := exists_of_map_eq_ok h
          have hlater := ih hrest
          simp [Reply.after, Reply.map, hlater, Except.map, tokensOf]

/-- Clearing the memories leaves matchers faithful. -/
theorem faithfulMatchers_cleared {made : Matcher E → Buffer → Nat → Prop} {d : Desk}
    {compiled : List (Matcher E)} {s : Scanner E}
    (h : FaithfulMatchers made d compiled s.matchers) :
    FaithfulMatchers made d compiled s.cleared.matchers :=
  List.forall₂_map_right_iff.mpr
    (h.imp fun _ _ hm => hm.extend (.inr rfl) (List.Subset.refl _))

/-- With faithful matchers, cutting a buffer from a boundary comes to its rounds, whatever is done
to the scanner before each of them as long as that leaves its matchers faithful. -/
theorem exists_cutting {patterns : List (List Char)} {options : Options} {compiled : Scanner E}
    (hcompiled : ofPatterns patterns options E = .ok compiled) {first : UInt64} {d : Desk}
    (hids : d.CountsFrom first) (hcount : d.buffers.length ≤ UInt64.size) {b : Buffer}
    (hb : b ∈ d.buffers)
    (hreliable : ∀ position, isBoundary b.text position = true → compiled.IsReliableAt b position)
    (hwithin : compiled.FindsWithin b) {prepare : Scanner E → Scanner E}
    (hprepare : ∀ s : Scanner E,
      FaithfulMatchers Matcher.DecidesAt d compiled.matchers s.matchers →
      FaithfulMatchers Matcher.DecidesAt d compiled.matchers (prepare s).matchers)
    {s : Scanner E} (h : FaithfulMatchers Matcher.DecidesAt d compiled.matchers s.matchers)
    {position : Nat} (hposition : isBoundary b.text position = true ∨ b.byteLength < position) :
    ∃ rounds, s.cuts prepare b position = .ok rounds ∧ compiled.Cutting b position rounds := by
  induction hleft : b.byteLength + 1 - position using Nat.strongRecOn
    generalizing s position with
  | ind left ih =>
    rw [cuts]
    by_cases hlt : b.byteLength < position
    · exact ⟨[], by rw [if_pos hlt], .pastEnd hlt⟩
    · have hle := Nat.not_lt.mp hlt
      have hhere := hposition.resolve_right hlt
      have hround := hreliable position hhere
      obtain ⟨answer, hanswer, hcalls⟩ :=
        exists_calls hcompiled (hprepare s h) hids hcount hb hround
      have hstate : FaithfulMatchers Matcher.DecidesAt d compiled.matchers
          ((prepare s).findNext b position).state.matchers :=
        (hprepare s h).scanFrom hb (fun m hm _ => (hround m hm).1) 0 none
      rw [if_neg hlt]
      simp only [hanswer]
      cases answer with
      | none => exact ⟨_, rfl, .absent hle hcalls⟩
      | some token =>
        obtain ⟨-, -, hstop⟩ := hwithin ((hcalls.eq_some_iff token).mp rfl).1
        have hforward := lt_nextPosition b.text position token.captures.stop
        obtain ⟨rest, hrest, hcutting⟩ := ih _ (by omega) hstate
          (isBoundary_nextPosition hhere hstop) rfl
        simp only [hrest]
        exact ⟨_, rfl, .token hle hcalls hcutting⟩

end Scanner

/-! ## Cutting with a used scanner -/

/-- Whether the rounds of cutting a buffer lead forward through it: there are no more of them than
boundaries, and each begins at another boundary, behind the round before it. What they find lies one
behind the other. -/
structure LeadForward (b : Buffer) (cuts : List Cut) : Prop where
  increasing : (cuts.map Cut.position).Pairwise (· < ·)
  boundaries : ∀ cut ∈ cuts, isBoundary b.text cut.position = true
  bounded : cuts.length ≤ b.text.length + 1
  ordered : ∀ token ∈ tokensOf cuts, token.captures.start ≤ token.captures.stop
  disjoint : (tokensOf cuts).Pairwise fun token later => token.captures.stop ≤ later.captures.start

/-- Whatever a compiled scanner was used for, cutting a buffer ends behind rounds that lead forward
through it. They are the same if all memories are cleared before each of them, and the tokens of the
buffer are those that they find. The searches of the rounds before, and those from the boundaries of
the buffer, have to come to verdicts; matches have to start ahead of the search and to be
well-formed; and verdicts have to carry over only for patterns that are not tied to the position of
the search. -/
theorem scanner_cuts_leadForward {E : RegexEngine} {patterns : List (List Char)}
    {options : Options} {s : Scanner E} (hs : Scanner.ofPatterns patterns options E = .ok s)
    (id : BufferId) {rounds : List Round} (hcount : rounds.countP (·.call.isBuild) < UInt64.size)
    (hrounds : AllRounds s.IsReliableAt (.empty id) rounds) {used : ScannerSession E}
    (hused : (ScannerSession.mk s (.empty id)).after rounds = used) {b : Buffer}
    (hb : b ∈ used.desk.buffers)
    (hreliable : ∀ position, isBoundary b.text position = true → s.IsReliableAt b position)
    (hranges : ∀ m ∈ s.matchers, E.ReportsWellFormed m.regex b.text) :
    ∃ cuts, used.scanner.cuts (fun s => s) b 0 = .ok cuts ∧
      used.scanner.cuts Scanner.cleared b 0 = .ok cuts ∧ LeadForward b cuts ∧
      ∀ count, (used.scanner.tokens b count).result = .ok ((tokensOf cuts).take count) := by
  subst hused
  have hbegins : (ScannerSession.mk s (.empty id)).Faithful Matcher.DecidesAt s :=
    FaithfulMatchers.of_ofPatterns hs _ _
  have hfaithful := hbegins.after
    (AllSearches.mono (fun b position hround m hm _ => (hround m hm).1) hrounds)
  obtain ⟨hids, hsize, -⟩ :=
    Desk.of_after_empty id (rounds.map Round.call) (by rwa [List.countP_map])
  rw [← ScannerSession.after_desk ⟨s, .empty id⟩] at hids hsize
  have hstart : isBoundary b.text 0 = true := isBoundary_iff.mpr ⟨[], b.text, rfl, rfl⟩
  have hwithin : s.FindsWithin b := Scanner.findsWithin_of_reportsWellFormed
    (fun m hm => (hreliable 0 hstart m hm).2.findsAhead) hranges
  obtain ⟨cuts, hcuts, hcutting⟩ := Scanner.exists_cutting hs hids hsize hb hreliable hwithin
    (fun _ h => h) hfaithful (.inl hstart)
  obtain ⟨others, hothers, hother⟩ := Scanner.exists_cutting hs hids hsize hb hreliable hwithin
    (fun _ h => Scanner.faithfulMatchers_cleared h) hfaithful (.inl hstart)
  obtain rfl := hcutting.unique hother
  exact ⟨cuts, hcuts, hothers,
    ⟨hcutting.increasing, hcutting.isBoundary hwithin (.inl hstart),
      hcutting.length_le hwithin (.inl hstart), hcutting.start_le_stop hwithin,
      hcutting.disjoint hwithin⟩,
    Scanner.result_tokensFrom hcuts⟩

set_option maxRecDepth 4000 in
/-- A line with a character of two bytes, cut by a scanner that was asked in the middle of it
before, where searches may go back ten times and no more. Two of the matches are empty, so that only
the step over a character leads forward. -/
theorem scanner_cuts_leadForward_accent :
    ∃ s, Scanner.ofPatterns ["(?=b)b".toList, "x*".toList] { backtrackLimit := some 10 } = .ok s ∧
      ∃ used, (ScannerSession.mk s (.empty ⟨0⟩)).after
          [.build (.text "éxb".toList .utf16), .find 0 2] = used ∧
        ∃ b ∈ used.desk.buffers, b.text = "éxb".toList ∧
          ∃ cuts, used.scanner.cuts (fun s => s) b 0 = .ok cuts ∧
            used.scanner.cuts Scanner.cleared b 0 = .ok cuts ∧ LeadForward b cuts ∧
            tokensOf cuts = [⟨1, ⟨[some ⟨0, 0⟩]⟩⟩, ⟨1, ⟨[some ⟨2, 3⟩]⟩⟩, ⟨0, ⟨[some ⟨3, 4⟩]⟩⟩,
              ⟨1, ⟨[some ⟨4, 4⟩]⟩⟩] := by
  have hcompiled : (fun s : Scanner =>
      (decide (∀ m ∈ s.matchers, m.regex.engine.readsOwnGroups = true),
      decide (∀ count ∈ List.range 4, ∀ m ∈ s.matchers,
        m.HasVerdict (.ofText ⟨0⟩ "éxb".toList .utf16)
          (byteLength ("éxb".toList.take count))),
      (((ScannerSession.mk s (.empty ⟨0⟩)).after
          [.build (.text "éxb".toList .utf16), .find 0 2]).scanner.tokens
        (.ofText ⟨0⟩ "éxb".toList .utf16) 4).result)) <$>
        Scanner.ofPatterns ["(?=b)b".toList, "x*".toList] { backtrackLimit := some 10 } =
      .ok (true, true, .ok [⟨1, ⟨[some ⟨0, 0⟩]⟩⟩, ⟨1, ⟨[some ⟨2, 3⟩]⟩⟩, ⟨0, ⟨[some ⟨3, 4⟩]⟩⟩,
        ⟨1, ⟨[some ⟨4, 4⟩]⟩⟩]) := by cbv
  obtain ⟨s, hs, hfacts⟩ := exists_of_map_eq_ok hcompiled
  simp only [Prod.mk.injEq, decide_eq_true_eq] at hfacts
  obtain ⟨hown, hverdicts, htokens⟩ := hfacts
  have hlaws := Scanner.isReliable_of_ofPatterns hs (by cbv) hown "éxb".toList
  have hreliable (position : Nat) (hposition : isBoundary "éxb".toList position = true) :
      s.IsReliableAt (.ofText ⟨0⟩ "éxb".toList .utf16) position := by
    obtain ⟨count, hcount, rfl⟩ := isBoundary_iff_take.mp hposition
    exact fun m hm =>
      ⟨hverdicts count (List.mem_range.mpr (Nat.lt_succ_of_le hcount)) m hm, hlaws m hm⟩
  have hranges : ∀ m ∈ s.matchers,
      RegexEngine.builtIn.ReportsWellFormed m.regex "éxb".toList := by
    intro m hm
    obtain ⟨pattern, -, hpattern⟩ := Scanner.exists_of_mem hs hm
    exact Matcher.reportsWellFormed hpattern _
  have hrounds : AllRounds s.IsReliableAt (.empty ⟨0⟩)
      [.build (.text "éxb".toList .utf16), .find 0 2] := by
    refine ⟨fun _ _ hplace => by simp [Round.call, Call.place?] at hplace,
      fun b position hplace => ?_, trivial⟩
    obtain ⟨rfl, rfl⟩ := Prod.mk.inj (Option.some.inj hplace)
    exact hreliable 2 rfl
  obtain ⟨cuts, hcuts, hcleared, hforward, hall⟩ :=
    scanner_cuts_leadForward (b := .ofText ⟨0⟩ "éxb".toList .utf16) hs ⟨0⟩ (by decide) hrounds rfl
      (.head _) hreliable hranges
  -- No more tokens are found than there are rounds.
  have hlength : (tokensOf cuts).length ≤ 4 :=
    (List.length_filterMap_le _ _).trans hforward.bounded
  refine ⟨s, hs, _, rfl, _, .head _, rfl, cuts, hcuts, hcleared, hforward, ?_⟩
  rw [← List.take_of_length_le hlength, ← Except.ok.injEq, ← hall 4, htokens]

end GrammarScan
