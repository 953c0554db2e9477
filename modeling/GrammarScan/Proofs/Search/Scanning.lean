import GrammarScan.Proofs.Regex.Captures
import GrammarScan.Proofs.Search.Session
import GrammarScan.Search.Scanner

/-!
# Sessions with a scanner

A round of a scanner asks its matchers one after another, each with its own memory, and leaves off
at a match at the position of the round. So what the memories hold depends on all rounds before,
and matchers behind such a match are not even asked. None of this shows: every round answers with
the match that starts first among those that the patterns have without memory, and of matches that
start together with that of the pattern listed first.

The invariant is that of one matcher, for every matcher of the scanner. About the engine it is
assumed that the searches of the rounds come to verdicts and that nothing is found before the
position of a search, and that verdicts carry over to later positions where a pattern is not tied to
the position of the search.
-/

namespace GrammarScan

/-- What a scanner relies on of the engine for one of its patterns in a text: matches start ahead of
the search, and verdicts carry over unless the pattern is tied to the position of the search. -/
structure Matcher.IsReliable {E : RegexEngine} (m : Matcher E) (text : List Char) : Prop where
  findsAhead : E.FindsAhead m.regex text
  carriesOver : Pattern.hasSearchAnchor m.pattern = false → E.CarriesOver m.regex text

/-- A request of a session with a scanner. Buffers are named by their place in the order of
construction. -/
inductive Round where
  | build (source : LineSource)
  | find (buffer position : Nat)

/-- What a round answers. -/
abbrev RoundAnswer := Except Fault (Option ScanMatch)

/-- A scanner at work. -/
structure ScannerSession (E : RegexEngine) where
  scanner : Scanner E
  desk : Desk

namespace ScannerSession

variable {E : RegexEngine}

/-- Takes one request. -/
def step (s : ScannerSession E) : Round → ScannerSession E × Option RoundAnswer
  | .build source => ({ s with desk := s.desk.build source }, none)
  | .find buffer position =>
    match s.desk.buffers[buffer]? with
    | some b =>
      let reply := s.scanner.findNext b position
      ({ s with scanner := reply.state }, some reply.result)
    | none => (s, none)

/-- Takes requests one after another and gives the answers. -/
def run (s : ScannerSession E) : List Round → List (Option RoundAnswer)
  | [] => []
  | round :: rest => (s.step round).2 :: (s.step round).1.run rest

/-- The session after some requests. -/
def after (s : ScannerSession E) : List Round → ScannerSession E
  | [] => s
  | round :: rest => (s.step round).1.after rest

end ScannerSession

/-! ## What a round should answer -/

section Answers

variable {E : RegexEngine}

/-- A match that one of some matchers has without memory. The places of the matchers are counted
from `index` on. -/
def ScanMatch.IsOffered (b : Buffer) (position index : Nat) (ms : List (Matcher E))
    (found : ScanMatch) : Prop :=
  ∃ i m, ms[i]? = some m ∧ found.index = index + i ∧
    (m.searchAfresh b position).1 = .ok (some found.captures)

/-- A match is taken before another if it starts earlier, or as early for a pattern that is not
listed behind. -/
def ScanMatch.TakenBefore (found other : ScanMatch) : Prop :=
  found.captures.start < other.captures.start ∨
    found.captures.start = other.captures.start ∧ found.index ≤ other.index

/-- The answer of a round on a scanner without memory: nothing if no pattern has a match, or the
match that is taken before all others. -/
structure Scanner.Calls (s : Scanner E) (b : Buffer) (position : Nat) (answer : Option ScanMatch) :
    Prop where
  eq_none_iff : answer = none ↔ ∀ found : ScanMatch, ¬ found.IsOffered b position 0 s.matchers
  eq_some_iff : ∀ found : ScanMatch, answer = some found ↔
    found.IsOffered b position 0 s.matchers ∧
      ∀ other : ScanMatch, other.IsOffered b position 0 s.matchers → found.TakenBefore other

end Answers

namespace Round

/-- What a request asks of each matcher. -/
def call : Round → Call
  | .build source => .build source
  | .find buffer position => .search buffer position

/-- Whether a request is answered as a scanner without memory calls for. -/
def IsAnswered {E : RegexEngine} (s : Scanner E) (d : Desk) (answer : Option RoundAnswer) :
    Round → Prop
  | .build _ => answer = none
  | .find buffer position =>
    match d.buffers[buffer]? with
    | some b => ∃ result, answer = some (.ok result) ∧ s.Calls b position result
    | none => answer = none

end Round

/-- Whether something holds of the buffer and the byte offset of every round. -/
def AllRounds (holds : Buffer → Nat → Prop) (d : Desk) (rounds : List Round) : Prop :=
  AllSearches holds d (rounds.map Round.call)

instance AllRounds.decidable {holds : Buffer → Nat → Prop}
    [∀ b position, Decidable (holds b position)] (d : Desk) (rounds : List Round) :
    Decidable (AllRounds holds d rounds) :=
  inferInstanceAs (Decidable (AllSearches holds d (rounds.map Round.call)))

/-- Whether requests are answered one by one as a scanner without memory calls for. -/
def AllAnswered {E : RegexEngine} (s : Scanner E) (d : Desk) :
    List Round → List (Option RoundAnswer) → Prop
  | [], answers => answers = []
  | round :: rest, answers => ∃ answer others, answers = answer :: others ∧
    round.IsAnswered s d answer ∧ AllAnswered s (round.call.desk d) rest others

/-! ## The first of several matches -/

namespace ScanMatch

variable {E : RegexEngine} {b : Buffer} {position index : Nat} {m : Matcher E}
  {ms : List (Matcher E)}
  {found other third : ScanMatch}

/-- A match counts as taken before itself. -/
theorem TakenBefore.refl (found : ScanMatch) : found.TakenBefore found := .inr ⟨rfl, le_rfl⟩

/-- What is taken before a match is taken before what comes behind that. -/
theorem TakenBefore.trans (h : found.TakenBefore other) (h' : other.TakenBefore third) :
    found.TakenBefore third := by
  unfold TakenBefore at *
  omega

/-- Where there are no matchers, no match is offered. -/
theorem isOffered_nil : ¬ found.IsOffered b position index ([] : List (Matcher E)) := by
  rintro ⟨i, m, hm, -⟩
  simp at hm

/-- What several matchers offer is offered by the first or by the others. -/
theorem isOffered_cons : found.IsOffered b position index (m :: ms) ↔
    found.index = index ∧ (m.searchAfresh b position).1 = .ok (some found.captures) ∨
      found.IsOffered b position (index + 1) ms := by
  constructor
  · rintro ⟨i, n, hn, hindex, hfound⟩
    cases i with
    | zero =>
      obtain rfl := Option.some.inj hn
      exact .inl ⟨hindex, hfound⟩
    | succ i => exact .inr ⟨i, n, hn, by omega, hfound⟩
  · rintro (⟨hindex, hfound⟩ | ⟨i, n, hn, hindex, hfound⟩)
    · exact ⟨0, m, rfl, hindex, hfound⟩
    · exact ⟨i + 1, n, hn, by omega, hfound⟩

/-- Matchers counted from a place on offer nothing for an earlier place. -/
theorem IsOffered.le_index (h : found.IsOffered b position index ms) : index ≤ found.index := by
  obtain ⟨i, m, -, hindex, -⟩ := h
  omega

/-- At one place one match is offered. -/
theorem IsOffered.eq_of_index_eq (h : found.IsOffered b position index ms)
    (h' : other.IsOffered b position index ms) (hindex : found.index = other.index) :
    found = other := by
  obtain ⟨i, m, hm, hi, hfound⟩ := h
  obtain ⟨j, n, hn, hj, hother⟩ := h'
  obtain rfl : i = j := by omega
  rw [hm] at hn
  obtain rfl := Option.some.inj hn
  rw [hfound] at hother
  obtain ⟨foundIndex, foundCaptures⟩ := found
  obtain ⟨otherIndex, otherCaptures⟩ := other
  simp only [Except.ok.injEq, Option.some.injEq] at hother
  simp only at hindex
  rw [hindex, hother]

end ScanMatch

/-- The outcome of asking some matchers when another match was found before: what was found before
or is offered, and is taken before all the rest. -/
structure IsFirst {E : RegexEngine} (b : Buffer) (position index : Nat) (best : Option ScanMatch)
    (ms : List (Matcher E)) (answer : Option ScanMatch) : Prop where
  offered : ∀ found, answer = some found → best = some found ∨ found.IsOffered b position index ms
  before : ∀ other, best = some other ∨ other.IsOffered b position index ms →
    ∃ found, answer = some found ∧ found.TakenBefore other

namespace IsFirst

variable {E : RegexEngine} {b : Buffer} {position index : Nat} {best answer : Option ScanMatch}
  {m : Matcher E}
  {ms : List (Matcher E)} {found : ScanMatch}

/-- Where no matcher is left the best match is the first. -/
theorem nil (b : Buffer) (position index : Nat) (best : Option ScanMatch) :
    IsFirst b position index best ([] : List (Matcher E)) best :=
  ⟨fun _ h => .inl h, fun other h => ⟨other, h.resolve_right ScanMatch.isOffered_nil, .refl other⟩⟩

/-- A matcher without a match can be left out. -/
theorem cons_absent (hm : (m.searchAfresh b position).1 = .ok none)
    (h : IsFirst b position (index + 1) best ms answer) :
    IsFirst b position index best (m :: ms) answer := by
  have hsame (found : ScanMatch) : found.IsOffered b position index (m :: ms) ↔
      found.IsOffered b position (index + 1) ms := by
    simp [ScanMatch.isOffered_cons, hm]
  exact ⟨fun found hfound => (h.offered found hfound).imp_right (hsame found).mpr,
    fun other hother => h.before other (hother.imp_right (hsame other).mp)⟩

/-- A match that starts no earlier than the best one does not change what comes first. -/
theorem cons_not_precedes {captures : Captures}
    (hm : (m.searchAfresh b position).1 = .ok (some captures))
    (hbest : ∀ other, best = some other → other.index < index)
    (hnot : (ScanMatch.mk index captures).precedes best = false)
    (h : IsFirst b position (index + 1) best ms answer) :
    IsFirst b position index best (m :: ms) answer := by
  refine ⟨fun found hfound => (h.offered found hfound).imp_right fun hoffered =>
    ScanMatch.isOffered_cons.mpr (.inr hoffered), fun other hother => ?_⟩
  rw [ScanMatch.isOffered_cons] at hother
  rcases hother with hother | ⟨hindex, hcaptures⟩ | hother
  · exact h.before other (.inl hother)
  · cases best with
    | none => simp [ScanMatch.precedes] at hnot
    | some first =>
      obtain ⟨found, hfound, hbefore⟩ := h.before first (.inl rfl)
      rw [hm] at hcaptures
      simp only [Except.ok.injEq, Option.some.injEq] at hcaptures
      simp only [ScanMatch.precedes, Option.all_some, decide_eq_false_iff_not, not_lt] at hnot
      have hfirst := hbest first rfl
      refine ⟨found, hfound, hbefore.trans ?_⟩
      unfold ScanMatch.TakenBefore
      rw [← hcaptures, hindex]
      omega
  · exact h.before other (.inr hother)

/-- A match that starts before the best one takes its place. -/
theorem cons_precedes {captures : Captures}
    (hm : (m.searchAfresh b position).1 = .ok (some captures))
    (hprecedes : (ScanMatch.mk index captures).precedes best = true)
    (h : IsFirst b position (index + 1) (some ⟨index, captures⟩) ms answer) :
    IsFirst b position index best (m :: ms) answer := by
  obtain ⟨first, hfirst, hbefore⟩ := h.before _ (.inl rfl)
  refine ⟨fun found hfound => .inr ?_, fun other hother => ?_⟩
  · rw [ScanMatch.isOffered_cons]
    refine (h.offered found hfound).imp ?_ id
    intro heq
    obtain rfl := Option.some.inj heq
    exact ⟨rfl, hm⟩
  · rw [ScanMatch.isOffered_cons] at hother
    rcases hother with hother | ⟨hindex, hcaptures⟩ | hother
    · subst hother
      simp only [ScanMatch.precedes, Option.all_some, decide_eq_true_eq] at hprecedes
      exact ⟨first, hfirst, hbefore.trans (.inl hprecedes)⟩
    · rw [hm] at hcaptures
      simp only [Except.ok.injEq, Option.some.injEq] at hcaptures
      refine ⟨first, hfirst, hbefore.trans (.inr ?_)⟩
      rw [← hcaptures, hindex]
      exact ⟨rfl, le_rfl⟩
    · exact h.before other (.inr hother)

/-- A match at the position of the round that starts before the best one comes first, whatever the
matchers behind it have. -/
theorem of_atPosition {captures : Captures}
    (hm : (m.searchAfresh b position).1 = .ok (some captures))
    (hahead : ∀ n ∈ ms, ∀ captures', (n.searchAfresh b position).1 = .ok (some captures') →
      position ≤ captures'.start)
    (hprecedes : (ScanMatch.mk index captures).precedes best = true)
    (hstart : captures.start = position) :
    IsFirst b position index best (m :: ms) (some ⟨index, captures⟩) := by
  refine cons_precedes hm hprecedes ⟨fun _ h => .inl h, fun other hother => ⟨_, rfl, ?_⟩⟩
  rcases hother with hother | hother
  · obtain rfl := Option.some.inj hother
    exact .refl _
  · have hindex := hother.le_index
    obtain ⟨i, n, hn, -, hcaptures⟩ := hother
    have hle := hahead n (List.mem_of_getElem? hn) _ hcaptures
    unfold ScanMatch.TakenBefore
    simp only [hstart]
    omega

/-- What comes first among all that the matchers of a scanner offer is the answer that is called
for. -/
theorem calls {s : Scanner E} (h : IsFirst b position 0 none s.matchers answer) :
    s.Calls b position answer := by
  have hoffered (found : ScanMatch) (hfound : answer = some found) :
      found.IsOffered b position 0 s.matchers :=
    (h.offered found hfound).resolve_left (by simp)
  constructor
  · constructor
    · rintro rfl found hfound
      obtain ⟨first, hfirst, -⟩ := h.before found (.inr hfound)
      contradiction
    · intro hnone
      by_contra hsome
      obtain ⟨found, hfound⟩ := Option.ne_none_iff_exists'.mp hsome
      exact hnone found (hoffered found hfound)
  · intro found
    constructor
    · intro hfound
      refine ⟨hoffered found hfound, fun other hother => ?_⟩
      obtain ⟨first, hfirst, hbefore⟩ := h.before other (.inr hother)
      rw [hfound] at hfirst
      obtain rfl := Option.some.inj hfirst
      exact hbefore
    · rintro ⟨hfound, hall⟩
      obtain ⟨first, hfirst, hbefore⟩ := h.before found (.inr hfound)
      have hafter := hall first (hoffered first hfirst)
      have hindex : first.index = found.index := by
        unfold ScanMatch.TakenBefore at hbefore hafter
        omega
      rw [hfirst, (hoffered first hfirst).eq_of_index_eq hfound hindex]

end IsFirst

/-! ## Rounds -/

section Asking

variable {E : RegexEngine} {b : Buffer} {position index : Nat} {best : Option ScanMatch}
  {m : Matcher E}
  {ms : List (Matcher E)} {captures : Captures}

/-- The matchers are asked on with another best match. -/
def scanOn (b : Buffer) (position index : Nat) (best : Option ScanMatch) (m : Matcher E)
    (ms : List (Matcher E)) : Reply (List (Matcher E)) RoundAnswer :=
  ((scanFrom b position (index + 1) best ms).after (m.search b position)).mapState
    ((m.search b position).state :: ·)

/-- A matcher without a match is passed over. -/
theorem scanFrom_absent (hm : (m.search b position).result = .ok none) :
    scanFrom b position index best (m :: ms) = scanOn b position index best m ms := by
  simp only [scanFrom, hm, scanOn]

/-- A match that does not come before the best one is passed over. -/
theorem scanFrom_not_precedes (hm : (m.search b position).result = .ok (some captures))
    (hnot : (ScanMatch.mk index captures).precedes best = false) :
    scanFrom b position index best (m :: ms) = scanOn b position index best m ms := by
  simp only [scanFrom, hm, hnot, Bool.not_false, if_true, scanOn]

/-- A match that comes before the best one takes its place. -/
theorem scanFrom_precedes (hm : (m.search b position).result = .ok (some captures))
    (hprecedes : (ScanMatch.mk index captures).precedes best = true)
    (hstart : captures.start ≠ position) :
    scanFrom b position index best (m :: ms) =
      scanOn b position index (some ⟨index, captures⟩) m ms := by
  simp only [scanFrom, hm, hprecedes, Bool.not_true, Bool.false_eq_true, if_false, if_neg hstart,
    scanOn]

/-- A match at the position of the round ends it. -/
theorem scanFrom_atPosition (hm : (m.search b position).result = .ok (some captures))
    (hprecedes : (ScanMatch.mk index captures).precedes best = true)
    (hstart : captures.start = position) :
    scanFrom b position index best (m :: ms) =
      ((m.search b position).mapState (· :: ms)).map fun _ => .ok (some ⟨index, captures⟩) := by
  simp only [scanFrom, hm, hprecedes, Bool.not_true, Bool.false_eq_true, if_false, if_pos hstart]

end Asking

/-- Where the engine finds matches ahead of the search, a search with a verdict has an answer, and a
match starts where the search begins or behind it. -/
theorem Matcher.HasVerdict.exists_ahead {E : RegexEngine} {m : Matcher E} {b : Buffer}
    {position : Nat} (h : m.HasVerdict b position) (hahead : E.FindsAhead m.regex b.text) :
    ∃ result, (m.searchAfresh b position).1 = .ok result ∧
      ∀ captures, result = some captures → position ≤ captures.start := by
  obtain ⟨result, hresult⟩ := h.exists_searchAfresh
  refine ⟨result, hresult, ?_⟩
  rintro captures rfl
  exact hahead h.onBoundary ((searchAfresh_eq_some h.onBoundary).mp hresult)

/-- Asking matchers that answer as without memory gives what comes first. -/
theorem isFirst_scanFrom {E : RegexEngine} {b : Buffer} {position : Nat}
    {compiled ms : List (Matcher E)}
    (h : List.Forall₂ (fun m₀ m =>
      (m.search b position).result = (m₀.searchAfresh b position).1) compiled ms)
    (hcompiled : ∀ m ∈ compiled, m.HasVerdict b position ∧ E.FindsAhead m.regex b.text)
    {index : Nat} {best : Option ScanMatch}
    (hbest : ∀ other, best = some other → other.index < index) :
    ∃ answer, (scanFrom b position index best ms).result = .ok answer ∧
      IsFirst b position index best compiled answer := by
  induction h generalizing index best with
  | nil => exact ⟨best, rfl, .nil b position index best⟩
  | @cons m₀ m compiled ms hsame hms ih =>
    obtain ⟨hm₀, hrest⟩ := List.forall_mem_cons.mp hcompiled
    obtain ⟨result, hfresh, -⟩ := hm₀.1.exists_ahead hm₀.2
    have hresult := hsame.trans hfresh
    have hlater : ∀ other, best = some other → other.index < index + 1 :=
      fun other hother => Nat.lt_succ_of_lt (hbest other hother)
    cases result with
    | none =>
      obtain ⟨answer, hanswer, hfirst⟩ := ih hrest hlater
      rw [scanFrom_absent hresult]
      exact ⟨answer, hanswer, hfirst.cons_absent hfresh⟩
    | some captures =>
      cases hprecedes : (ScanMatch.mk index captures).precedes best with
      | false =>
        obtain ⟨answer, hanswer, hfirst⟩ := ih hrest hlater
        rw [scanFrom_not_precedes hresult hprecedes]
        exact ⟨answer, hanswer, hfirst.cons_not_precedes hfresh hbest hprecedes⟩
      | true =>
        by_cases hstart : captures.start = position
        · rw [scanFrom_atPosition hresult hprecedes hstart]
          refine ⟨_, rfl, .of_atPosition hfresh ?_ hprecedes hstart⟩
          intro n hn captures' hcaptures
          obtain ⟨hverdict, hahead⟩ := hrest n hn
          exact hahead hverdict.onBoundary
            ((Matcher.searchAfresh_eq_some hverdict.onBoundary).mp hcaptures)
        · have hnow : ∀ other, some (ScanMatch.mk index captures) = some other →
              other.index < index + 1 := by
            rintro other hother
            obtain rfl := Option.some.inj hother
            exact Nat.lt_succ_self index
          obtain ⟨answer, hanswer, hfirst⟩ := ih hrest hnow
          rw [scanFrom_precedes hresult hprecedes hstart]
          exact ⟨answer, hanswer, hfirst.cons_precedes hfresh hprecedes⟩

/-! ## The invariant -/

/-- The invariant of a session: each matcher is faithful to the one that was compiled in its
place. -/
def FaithfulMatchers {E : RegexEngine} (made : Matcher E → Buffer → Nat → Prop) (d : Desk)
    (compiled ms : List (Matcher E)) : Prop :=
  List.Forall₂ (fun m₀ m => (Session.mk m d).Faithful (made m₀) m₀) compiled ms

namespace FaithfulMatchers

variable {E : RegexEngine} {made : Matcher E → Buffer → Nat → Prop} {d : Desk}
  {compiled ms : List (Matcher E)} {b : Buffer} {position : Nat} {first : UInt64}

/-- Every matcher is faithful to one of those that were compiled, in the same place. -/
theorem exists_of_getElem? (h : FaithfulMatchers made d compiled ms) {i : Nat} {m : Matcher E}
    (hm : ms[i]? = some m) :
    ∃ m₀, compiled[i]? = some m₀ ∧ (Session.mk m d).Faithful (made m₀) m₀ := by
  induction h generalizing i with
  | nil => simp at hm
  | @cons first other compiled ms hfirst hrest ih =>
    cases i with
    | zero =>
      obtain rfl := Option.some.inj hm
      exact ⟨first, rfl, hfirst⟩
    | succ i => exact ih hm

/-- Building a buffer leaves matchers faithful. -/
theorem build (h : FaithfulMatchers made d compiled ms) (source : LineSource) :
    FaithfulMatchers made (d.build source) compiled ms :=
  List.Forall₂.imp (fun _ _ hm => hm.extend (.inl rfl) (Desk.subset_build d source)) h

/-- Asking faithful matchers leaves them faithful. -/
theorem scanFrom (h : FaithfulMatchers made d compiled ms) (hb : b ∈ d.buffers)
    (hmade : ∀ m ∈ compiled, made m b position) (index : Nat) (best : Option ScanMatch) :
    FaithfulMatchers made d compiled (scanFrom b position index best ms).state := by
  induction h generalizing index best with
  | nil => exact .nil
  | @cons m₀ m compiled ms hm hms ih =>
    obtain ⟨hhere, hrest⟩ := List.forall_mem_cons.mp hmade
    have hsearch : (Session.mk (m.search b position).state d).Faithful (made m₀) m₀ :=
      hm.search hb hhere
    cases hresult : (m.search b position).result with
    | error fault =>
      simp only [GrammarScan.scanFrom, hresult]
      exact .cons hsearch hms
    | ok result =>
      cases result with
      | none =>
        rw [scanFrom_absent hresult]
        exact .cons hsearch (ih hrest _ _)
      | some captures =>
        cases hprecedes : (ScanMatch.mk index captures).precedes best with
        | false =>
          rw [scanFrom_not_precedes hresult hprecedes]
          exact .cons hsearch (ih hrest _ _)
        | true =>
          by_cases hstart : captures.start = position
          · rw [scanFrom_atPosition hresult hprecedes hstart]
            exact .cons hsearch hms
          · rw [scanFrom_precedes hresult hprecedes hstart]
            exact .cons hsearch (ih hrest _ _)

/-- Faithful matchers answer as without memory where the engine can be relied on. -/
theorem search_eq_searchAfresh (h : FaithfulMatchers Matcher.DecidesAt d compiled ms)
    (hids : d.CountsFrom first) (hcount : d.buffers.length ≤ UInt64.size) (hb : b ∈ d.buffers)
    (hcompiled : ∀ m ∈ compiled, m.DecidesAt b position ∧
      (m.searchAnchored = false → E.CarriesOver m.regex b.text)) :
    List.Forall₂ (fun m₀ m =>
      (m.search b position).result = (m₀.searchAfresh b position).1) compiled ms := by
  induction h with
  | nil => exact .nil
  | cons hm hms ih =>
    obtain ⟨⟨hhere, hlaws⟩, hrest⟩ := List.forall_mem_cons.mp hcompiled
    exact .cons (hm.search_eq_searchAfresh hids hcount hb hhere hlaws) (ih hrest)

end FaithfulMatchers

/-- The matchers of a compiled scanner are compiled from the patterns. -/
theorem Scanner.exists_of_mem {E : RegexEngine} {patterns : List (List Char)} {options : Options}
    {s : Scanner E} (h : ofPatterns patterns options E = .ok s) {m : Matcher E}
    (hm : m ∈ s.matchers) :
    ∃ pattern ∈ patterns, Matcher.ofPattern pattern options E = .ok m := by
  obtain ⟨matchers, hmatchers, rfl⟩ := exists_of_map_eq_ok h
  obtain ⟨i, hi⟩ := List.getElem?_of_mem hm
  obtain ⟨pattern, hpattern, hcompiled⟩ := exists_of_mapM_eq_ok hmatchers hi
  exact ⟨pattern, List.mem_of_getElem? hpattern, hcompiled⟩

/-- The matchers of a compiled scanner know whether their patterns are tied to the position of the
search. -/
theorem Scanner.searchAnchored_eq {E : RegexEngine} {patterns : List (List Char)}
    {options : Options} {s : Scanner E} (h : ofPatterns patterns options E = .ok s) {m : Matcher E}
    (hm : m ∈ s.matchers) : m.searchAnchored = Pattern.hasSearchAnchor m.pattern := by
  obtain ⟨pattern, -, hpattern⟩ := exists_of_mem h hm
  obtain ⟨-, htext, hanchored, -⟩ := Matcher.eq_of_ofPattern hpattern
  rw [htext, hanchored]

/-- The matchers of a compiled scanner are faithful. -/
theorem FaithfulMatchers.of_ofPatterns {E : RegexEngine} {patterns : List (List Char)}
    {options : Options} {s : Scanner E} (h : Scanner.ofPatterns patterns options E = .ok s)
    (made : Matcher E → Buffer → Nat → Prop) (d : Desk) :
    FaithfulMatchers made d s.matchers s.matchers := by
  refine List.forall₂_same.mpr fun m hm => ?_
  obtain ⟨pattern, -, hpattern⟩ := Scanner.exists_of_mem h hm
  exact .of_ofPattern hpattern _ d

/-- What is assumed of the searches of a round: they come to verdicts, and the engine can be relied
on in the text that is searched. -/
def Scanner.IsReliableAt {E : RegexEngine} (s : Scanner E) (b : Buffer) (position : Nat) : Prop :=
  ∀ m ∈ s.matchers, m.HasVerdict b position ∧ m.IsReliable b.text

namespace Scanner

variable {E : RegexEngine} {patterns : List (List Char)} {options : Options}
  {compiled s : Scanner E} {d : Desk} {first : UInt64} {b : Buffer} {position : Nat}

/-- A round on faithful matchers is answered as a scanner without memory calls for. -/
theorem exists_calls (hcompiled : ofPatterns patterns options E = .ok compiled)
    (h : FaithfulMatchers Matcher.DecidesAt d compiled.matchers s.matchers)
    (hids : d.CountsFrom first) (hcount : d.buffers.length ≤ UInt64.size) (hb : b ∈ d.buffers)
    (hreliable : compiled.IsReliableAt b position) :
    ∃ answer, (s.findNext b position).result = .ok answer ∧ compiled.Calls b position answer := by
  have hsame := h.search_eq_searchAfresh hids hcount hb fun m hm =>
    ⟨fun _ => (hreliable m hm).1, fun hfree => (hreliable m hm).2.carriesOver
      ((searchAnchored_eq hcompiled hm).symm.trans hfree)⟩
  have hnone (other : ScanMatch) (hother : none = some other) : other.index < 0 := by simp at hother
  obtain ⟨answer, hanswer, hfirst⟩ := isFirst_scanFrom hsame
    (fun m hm => ⟨(hreliable m hm).1, (hreliable m hm).2.findsAhead⟩) hnone
  exact ⟨answer, hanswer, hfirst.calls⟩

end Scanner

namespace ScannerSession

variable {E : RegexEngine} {compiled : Scanner E} {s : ScannerSession E} {first : UInt64}
  {made : Matcher E → Buffer → Nat → Prop}

/-- Only a construction changes the desk of a session. -/
theorem step_desk (s : ScannerSession E) (round : Round) :
    (s.step round).1.desk = round.call.desk s.desk := by
  cases round with
  | build source => rfl
  | find buffer position =>
    simp only [ScannerSession.step]
    split <;> rfl

/-- The desk of a session does not depend on its scanner. -/
theorem after_desk (s : ScannerSession E) (rounds : List Round) :
    (s.after rounds).desk = s.desk.after (rounds.map Round.call) := by
  induction rounds generalizing s with
  | nil => rfl
  | cons round rest ih => rw [after, ih, step_desk, List.map_cons, Desk.after]

/-- The invariant of a session whose scanner was compiled as the given one. -/
def Faithful (made : Matcher E → Buffer → Nat → Prop) (compiled : Scanner E)
    (s : ScannerSession E) : Prop :=
  FaithfulMatchers made s.desk compiled.matchers s.scanner.matchers

/-- A request leaves a faithful session faithful. -/
theorem Faithful.step (h : s.Faithful made compiled) {round : Round}
    (hmade : ∀ b position, round.call.place? s.desk = some (b, position) →
      ∀ m ∈ compiled.matchers, made m b position) :
    (s.step round).1.Faithful made compiled := by
  cases round with
  | build source => exact FaithfulMatchers.build h source
  | find buffer position =>
    simp only [ScannerSession.step, Round.call, Call.place?] at hmade ⊢
    cases hb : s.desk.buffers[buffer]? with
    | none => exact h
    | some b =>
      exact FaithfulMatchers.scanFrom h (List.mem_of_getElem? hb)
        (hmade b position (by rw [hb]; rfl)) 0 none

/-- Requests leave a faithful session faithful. -/
theorem Faithful.after (h : s.Faithful made compiled) {rounds : List Round}
    (hmade : AllRounds (fun b position => ∀ m ∈ compiled.matchers, made m b position) s.desk
      rounds) : (s.after rounds).Faithful made compiled := by
  induction rounds generalizing s with
  | nil => exact h
  | cons round rest ih =>
    obtain ⟨hhere, hlater⟩ := hmade
    rw [← s.step_desk round] at hlater
    exact ih (h.step hhere) hlater

/-- A faithful session answers all requests as a scanner without memory calls for. -/
theorem Faithful.run {patterns : List (List Char)} {options : Options}
    (hcompiled : Scanner.ofPatterns patterns options E = .ok compiled)
    (h : s.Faithful Matcher.DecidesAt compiled) (hids : s.desk.CountsFrom first)
    {rounds : List Round}
    (hcount : s.desk.buffers.length + rounds.countP (·.call.isBuild) < UInt64.size)
    (hrounds : AllRounds compiled.IsReliableAt s.desk rounds) :
    AllAnswered compiled s.desk rounds (s.run rounds) := by
  induction rounds generalizing s with
  | nil => rfl
  | cons round rest ih =>
    obtain ⟨hround, hrest⟩ := hrounds
    have hstep := h.step fun b position hplace m hm _ => (hround b position hplace m hm).1
    have hids' := round.call.countsFrom_desk hids
    have hlength := round.call.length_desk_le s.desk
    refine ⟨_, _, rfl, ?_, ?_⟩
    · cases round with
      | build source => rfl
      | find buffer position =>
        simp only [ScannerSession.step, Round.IsAnswered, Round.call, Call.place?] at hround ⊢
        cases hb : s.desk.buffers[buffer]? with
        | none => rfl
        | some b =>
          obtain ⟨answer, hanswer, hcalls⟩ := Scanner.exists_calls hcompiled h hids (by omega)
            (List.mem_of_getElem? hb) (hround b position (by rw [hb]; rfl))
          exact ⟨answer, congrArg some hanswer, hcalls⟩
    · rw [List.countP_cons] at hcount
      rw [← s.step_desk round] at hrest hids' hlength ⊢
      exact ih hstep hids' (by omega) hrest

end ScannerSession

/-- A session with a scanner answers every round with nothing if no pattern has a match without
memory, and otherwise with the match without memory that is taken before all others. The searches of
the rounds have to come to verdicts, and matches to start ahead of them; verdicts have to carry over
only for patterns that are not tied to the position of the search. -/
theorem scannerSession_run_allAnswered {E : RegexEngine} {patterns : List (List Char)}
    {options : Options} {s : Scanner E} (hs : Scanner.ofPatterns patterns options E = .ok s)
    (id : BufferId) {rounds : List Round} (hcount : rounds.countP (·.call.isBuild) < UInt64.size)
    (hrounds : AllRounds s.IsReliableAt (.empty id) rounds) :
    AllAnswered s (.empty id) rounds ((ScannerSession.mk s (.empty id)).run rounds) := by
  have hfaithful : (ScannerSession.mk s (.empty id)).Faithful Matcher.DecidesAt s :=
    FaithfulMatchers.of_ofPatterns hs _ _
  exact hfaithful.run hs (Desk.countsFrom_empty id) (by simpa [Desk.empty]) hrounds

/-- The built-in engine can be relied on for patterns that do not move the start of the match. -/
theorem Scanner.isReliable_of_ofPatterns {patterns : List (List Char)} {options : Options}
    {s : Scanner} (hs : ofPatterns patterns options = .ok s)
    (hpatterns : (patterns.all fun pattern => !Pattern.movesStart pattern &&
      !options.movesStartBack pattern && !Pattern.cutsEscape pattern) = true)
    (hown : ∀ m ∈ s.matchers, m.regex.engine.readsOwnGroups = true) (text : List Char) :
    ∀ m ∈ s.matchers, m.IsReliable text := by
  intro m hm
  obtain ⟨pattern, hmem, hpattern⟩ := exists_of_mem hs hm
  have hpattern' := List.all_eq_true.mp hpatterns pattern hmem
  simp only [Bool.and_eq_true, Bool.not_eq_true'] at hpattern'
  obtain ⟨⟨hmoves, hback⟩, hcut⟩ := hpattern'
  refine ⟨Matcher.findsAhead hpattern hback text, fun hfree => ?_⟩
  rw [(Matcher.eq_of_ofPattern hpattern).2.1] at hfree
  exact Matcher.carriesOver hpattern hfree hcut (hown m hm) hmoves text

set_option maxRecDepth 4000 in
/-- Three patterns on two buffers, forwards and backwards, where searches may go back ten times and
no more. From the start two matches start together and the one listed first is taken; at its own
position the first pattern ends the round. -/
theorem scannerSession_run_allAnswered_limit :
    ∃ s, Scanner.ofPatterns ["b".toList, "(?=ab)a+".toList, "a".toList]
        { backtrackLimit := some 10 } = .ok s ∧
      AllAnswered s (.empty ⟨0⟩) [.build (.text "xab".toList .utf16), .build (.utf8 [0x62]),
          .find 0 0, .find 0 2, .find 1 0, .find 0 3, .find 0 1]
        [none, none, some (.ok (some ⟨1, ⟨[some ⟨1, 2⟩]⟩⟩)), some (.ok (some ⟨0, ⟨[some ⟨2, 3⟩]⟩⟩)),
          some (.ok (some ⟨0, ⟨[some ⟨0, 1⟩]⟩⟩)), some (.ok none),
          some (.ok (some ⟨1, ⟨[some ⟨1, 2⟩]⟩⟩))] := by
  have hcompiled : (fun s : Scanner =>
      (decide (∀ m ∈ s.matchers, m.regex.engine.readsOwnGroups = true),
      decide (AllRounds (fun b position => ∀ m ∈ s.matchers, m.HasVerdict b position) (.empty ⟨0⟩)
        [.build (.text "xab".toList .utf16), .build (.utf8 [0x62]), .find 0 0, .find 0 2,
          .find 1 0, .find 0 3, .find 0 1]),
      (ScannerSession.mk s (.empty ⟨0⟩)).run [.build (.text "xab".toList .utf16),
          .build (.utf8 [0x62]), .find 0 0, .find 0 2, .find 1 0, .find 0 3, .find 0 1])) <$>
        Scanner.ofPatterns ["b".toList, "(?=ab)a+".toList, "a".toList]
          { backtrackLimit := some 10 } =
      .ok (true, true, [none, none, some (.ok (some ⟨1, ⟨[some ⟨1, 2⟩]⟩⟩)),
          some (.ok (some ⟨0, ⟨[some ⟨2, 3⟩]⟩⟩)), some (.ok (some ⟨0, ⟨[some ⟨0, 1⟩]⟩⟩)),
          some (.ok none), some (.ok (some ⟨1, ⟨[some ⟨1, 2⟩]⟩⟩))]) := by cbv
  obtain ⟨s, hs, hfacts⟩ := exists_of_map_eq_ok hcompiled
  simp only [Prod.mk.injEq, decide_eq_true_eq] at hfacts
  obtain ⟨hown, hverdicts, hanswers⟩ := hfacts
  have hreliable := Scanner.isReliable_of_ofPatterns hs (by cbv) hown
  refine ⟨s, hs, ?_⟩
  rw [← hanswers]
  exact scannerSession_run_allAnswered hs ⟨0⟩ (by decide) (hverdicts.mono
    fun b position hverdict m hm => ⟨hverdict m hm, hreliable b.text m hm⟩)

end GrammarScan
