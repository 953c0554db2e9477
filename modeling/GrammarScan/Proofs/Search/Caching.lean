import GrammarScan.Proofs.Search.Laws
import GrammarScan.Search.Cache

/-!
# Caches as families of matchers

A cache hands out one matcher after another, and what is done with one is mixed with what is done
with the others. It might as well have given every pattern a matcher of its own: what comes back
from a request is what a single matcher would give that was compiled when its pattern was first
asked for since the cache was last cleared, and that has seen no other requests than those for its
pattern.

The invariant says what the whole cache is: under every pattern asked for since then stands the
matcher of its own, or the failure to compile it, and nothing else is kept. One step keeps it. The
answers, the hits, the notices and the size are read off.

Compiling and searching are functions here, so nothing is assumed about the engine.
-/

namespace GrammarScan

/-! ## Matchers on their own -/

/-- What is done with a matcher. -/
inductive MatcherCall where
  | search (buffer : Buffer) (position : Nat)
  | searchUnits (buffer : Buffer) (position : Nat)
  | reset

namespace Reply

variable {State Result : Type}

/-- What a reply shows of itself: everything but the state. -/
def seen (r : Reply State Result) : Reply Unit Result := r.mapState fun _ => ()

end Reply

/-- The pattern that a notice is about, if it is about one. -/
def Notice.pattern? : Notice → Option (List Char)
  | .patternFailed pattern _ | .searchAborted pattern _ _ => some pattern
  | .offBoundary _ _ | .unresolved _ => none

/-- The notices about a pattern. -/
def noticesAbout (pattern : List Char) (notices : List Notice) : List Notice :=
  notices.filter (·.pattern? = some pattern)

/-- Notices are told apart in parts. -/
@[simp] theorem noticesAbout_append (pattern : List Char) (first rest : List Notice) :
    noticesAbout pattern (first ++ rest) =
      noticesAbout pattern first ++ noticesAbout pattern rest :=
  List.filter_append ..

/-- Notices of which each is about another pattern or about none. -/
theorem noticesAbout_eq_nil {pattern other : List Char} {notices : List Notice}
    (hne : other ≠ pattern)
    (h : ∀ notice ∈ notices, ∀ p, notice.pattern? = some p → p = other) :
    noticesAbout pattern notices = [] := by
  refine List.filter_eq_nil_iff.mpr fun notice hnotice => ?_
  simpa using fun hpattern => hne (h notice hnotice pattern hpattern).symm

namespace Matcher

variable {E : RegexEngine}

/-- Does one thing with a matcher. A reset answers nothing. -/
def reply (m : Matcher E) : MatcherCall → Reply (Matcher E) (Option Answer)
  | .search buffer position => (m.search buffer position).map some
  | .searchUnits buffer position => (m.searchUnits buffer position).map some
  | .reset => { result := none, state := m.reset }

/-- Does one thing after another with a matcher. The result is what was seen of each. -/
def use (m : Matcher E) : List MatcherCall → Reply (Matcher E) (List (Reply Unit (Option Answer)))
  | [] => { result := [], state := m }
  | call :: rest =>
    let first := m.reply call
    ((first.state.use rest).map (first.seen :: ·)).after first

/-- What is done later starts from where the earlier ended. -/
theorem use_append_state (m : Matcher E) (calls later : List MatcherCall) :
    (m.use (calls ++ later)).state = ((m.use calls).state.use later).state := by
  induction calls generalizing m with
  | nil => rfl
  | cons call rest ih => exact ih _

/-- A search keeps the pattern, and its notices are about no other. -/
theorem search_pattern (m : Matcher E) (buffer : Buffer) (position : Nat) :
    (m.search buffer position).state.pattern = m.pattern ∧
      ∀ notice ∈ (m.search buffer position).notices, ∀ p, notice.pattern? = some p →
        p = m.pattern := by
  unfold search
  split
  · exact ⟨rfl, by simp⟩
  · constructor
    · cases hresult : (m.searchAfresh buffer position).1 <;> simp [hresult, remember]
    · simp only [searchAfresh]
      split
      · split <;> simp [Notice.pattern?]
      · simp [Notice.pattern?]

/-- Whatever is done with a matcher keeps its pattern, and the notices are about no other. -/
theorem reply_pattern (m : Matcher E) (call : MatcherCall) :
    (m.reply call).state.pattern = m.pattern ∧
      ∀ notice ∈ (m.reply call).notices, ∀ p, notice.pattern? = some p → p = m.pattern := by
  cases call with
  | search buffer position => exact m.search_pattern buffer position
  | searchUnits buffer position =>
    simp only [reply, searchUnits]
    cases buffer.byteOffset position with
    | ok offset => exact m.search_pattern buffer offset
    | error fault => exact ⟨rfl, by simp [Reply.map]⟩
  | reset => exact ⟨rfl, by simp [reply]⟩

/-- However much is done with a matcher, it keeps its pattern, and the notices are about no
other. -/
theorem use_pattern (m : Matcher E) (calls : List MatcherCall) :
    (m.use calls).state.pattern = m.pattern ∧
      ∀ notice ∈ (m.use calls).notices, ∀ p, notice.pattern? = some p → p = m.pattern := by
  induction calls generalizing m with
  | nil => exact ⟨rfl, by simp [use]⟩
  | cons call rest ih =>
    obtain ⟨hstate, hnotices⟩ := m.reply_pattern call
    obtain ⟨hlast, hothers⟩ := ih (m.reply call).state
    rw [hstate] at hlast hothers
    refine ⟨hlast, fun notice hnotice => ?_⟩
    rcases List.mem_append.mp hnotice with hfirst | hrest
    · exact hnotices notice hfirst
    · exact hothers notice hrest

/-- A pattern that cannot be compiled is named by its failure. -/
theorem pattern_of_ofPattern_error {pattern : List Char} {options : Options} {e : PatternError E}
    (h : ofPattern pattern options E = .error e) : e.pattern = pattern := by
  simp only [ofPattern, Options.compile] at h
  split at h
  · simp [bind, Except.bind, pure, Except.pure] at h
  · obtain rfl := Except.error.inj h
    rfl

end Matcher

/-! ## Requests -/

/-- A request to a cache: for the matcher of a pattern, with what is done with it until the next
request, or to forget everything. -/
inductive CacheCall where
  | request (pattern : List Char) (calls : List MatcherCall)
  | clear

/-- What comes back from a request for a pattern: the matcher as it is handed out, and what is seen
of the things done with it. -/
abbrev CacheAnswer (E : RegexEngine) :=
  Except (PatternError E) (Matcher E × List (Reply Unit (Option Answer)))

namespace CacheCall

/-- The pattern that is asked for. -/
def pattern? : CacheCall → Option (List Char)
  | .request pattern _ => some pattern
  | .clear => none

/-- What is done with the matcher of a pattern. -/
def callsFor (pattern : List Char) : CacheCall → List MatcherCall
  | .request other calls => if other = pattern then calls else []
  | .clear => []

/-- The requests since the last that forgets, with one more. -/
def recordIn (past : List CacheCall) : CacheCall → List CacheCall
  | .request pattern calls => past ++ [.request pattern calls]
  | .clear => []

end CacheCall

/-- The requests after the last one that forgets. -/
def sinceClear (history : List CacheCall) : List CacheCall := history.foldl CacheCall.recordIn []

/-- The patterns asked for, as often as they are. -/
def requested (past : List CacheCall) : List (List Char) := past.filterMap CacheCall.pattern?

/-- Everything done with the matcher of a pattern. -/
def callsFor (pattern : List Char) (past : List CacheCall) : List MatcherCall :=
  past.flatMap (CacheCall.callsFor pattern)

/-- Nothing is done with the matcher of a pattern that is not asked for. -/
theorem callsFor_eq_nil {pattern : List Char} {past : List CacheCall}
    (h : pattern ∉ requested past) : callsFor pattern past = [] := by
  refine List.flatMap_eq_nil_iff.mpr fun call hcall => ?_
  cases call with
  | request other calls =>
    refine if_neg fun heq => h ?_
    exact List.mem_filterMap.mpr ⟨_, hcall, congrArg some heq⟩
  | clear => rfl

section Own

variable (E : RegexEngine)

/-- A matcher of its own for a pattern: compiled once, and used for that pattern only. -/
def ownMatcher (options : Options) (past : List CacheCall) (pattern : List Char) :
    Except (PatternError E) (Matcher E) :=
  (Matcher.ofPattern pattern options E).map fun m => (m.use (callsFor pattern past)).state

/-- What a matcher of its own replies to a request for its pattern. The notice of a failure is left
with the first request. -/
def ownReply (options : Options) (past : List CacheCall) (pattern : List Char)
    (calls : List MatcherCall) : Reply Unit (Option (CacheAnswer E)) :=
  match Matcher.ofPattern pattern options E with
  | .ok m =>
    let own := (m.use (callsFor pattern past)).state
    ((own.use calls).map fun shown => some (.ok (own, shown))).seen
  | .error e =>
    { result := some (.error e)
      state := ()
      notices := if pattern ∈ requested past then [] else [.patternFailed e.pattern e.message] }

variable {E}

/-- A matcher on its own is the compiled one as long as its pattern is not asked for. -/
theorem ownMatcher_eq_ofPattern {options : Options} {past : List CacheCall} {pattern : List Char}
    (h : pattern ∉ requested past) :
    ownMatcher E options past pattern = Matcher.ofPattern pattern options E := by
  rw [ownMatcher, callsFor_eq_nil h]
  cases Matcher.ofPattern pattern options E <;> rfl

/-- A matcher on its own or the failure names its pattern. -/
theorem ownMatcher_pattern (options : Options) (past : List CacheCall) (pattern : List Char) :
    (∀ m, ownMatcher E options past pattern = .ok m → m.pattern = pattern) ∧
      ∀ e, ownMatcher E options past pattern = .error e → e.pattern = pattern := by
  cases hm : Matcher.ofPattern pattern options E with
  | ok m =>
    simp only [ownMatcher, hm, Except.map, Except.ok.injEq, reduceCtorEq, false_implies,
      implies_true, and_true]
    rintro _ rfl
    rw [(m.use_pattern _).1, (Matcher.eq_of_ofPattern hm).2.1]
  | error e =>
    simp only [ownMatcher, hm, Except.map, Except.error.injEq, reduceCtorEq, false_implies,
      implies_true, true_and]
    rintro _ rfl
    exact Matcher.pattern_of_ofPattern_error hm

/-- A request moves on the matcher of its own pattern and no other. -/
theorem ownMatcher_request (options : Options) (past : List CacheCall) (pattern other : List Char)
    (calls : List MatcherCall) :
    ownMatcher E options (past ++ [.request pattern calls]) other =
      if other = pattern then (ownMatcher E options past pattern).map fun m => (m.use calls).state
      else ownMatcher E options past other := by
  split
  · next heq =>
    subst heq
    simp only [ownMatcher, callsFor, List.flatMap_append, List.flatMap_singleton,
      CacheCall.callsFor, if_true, Matcher.use_append_state]
    cases Matcher.ofPattern other options E <;> rfl
  · next hne =>
    simp only [ownMatcher, callsFor, List.flatMap_append, List.flatMap_singleton,
      CacheCall.callsFor, if_neg (Ne.symm hne), List.append_nil]

end Own

/-! ## The invariant -/

/-- A list without repetitions keeps what it has, and has it once. -/
theorem nodup_eraseDups {α : Type} [BEq α] [LawfulBEq α] (l : List α) : l.eraseDups.Nodup := by
  induction h : l.length using Nat.strongRecOn generalizing l with
  | ind n ih =>
    cases l with
    | nil => simp
    | cons a rest =>
      rw [List.eraseDups_cons]
      refine List.nodup_cons.mpr ⟨by simp [List.mem_eraseDups], ih _ ?_ _ rfl⟩
      rw [← h]
      exact Nat.lt_succ_of_le (List.length_filter_le ..)

/-- One more element of a list is dropped where it was there. -/
theorem eraseDups_concat_of_mem {α : Type} [BEq α] [LawfulBEq α] {l : List α} {a : α}
    (h : a ∈ l) : (l ++ [a]).eraseDups = l.eraseDups := by
  simp [List.eraseDups_append, List.removeAll, h]

/-- One more element of a list is kept where it was not there. -/
theorem eraseDups_concat_of_not_mem {α : Type} [BEq α] [LawfulBEq α] {l : List α} {a : α}
    (h : a ∉ l) : (l ++ [a]).eraseDups = l.eraseDups ++ [a] := by
  simp [List.eraseDups_append, List.removeAll, h, List.eraseDups_cons]

namespace MatcherCache

section Steps

variable {E : RegexEngine}

/-- Takes one request. -/
def step (c : MatcherCache E) : CacheCall → Reply (MatcherCache E) (Option (CacheAnswer E))
  | .request pattern calls =>
    (c.useMatcher pattern fun m => (m.use calls).map fun shown => (m, shown)).map some
  | .clear => { result := none, state := c.clear }

/-- Takes requests one after another. -/
def after (c : MatcherCache E) (history : List CacheCall) : MatcherCache E :=
  history.foldl (fun c call => (c.step call).state) c

/-- The notices that requests leave. -/
def noticesOf (c : MatcherCache E) : List CacheCall → List Notice
  | [] => []
  | call :: rest => (c.step call).notices ++ (c.step call).state.noticesOf rest

/-- The cache that keeps something under each of some patterns. -/
def keeping (options : Options) (patterns : List (List Char))
    (kept : List Char → Except (PatternError E) (Matcher E)) : MatcherCache E :=
  ⟨options, patterns.map fun pattern => (pattern, kept pattern)⟩

end Steps

/-- The family of the matchers on their own, in the order of first request. -/
def family (E : RegexEngine) (options : Options) (past : List CacheCall) : MatcherCache E :=
  keeping options (requested past).eraseDups (ownMatcher E options past)

variable {E : RegexEngine} {options : Options} {past : List CacheCall}

/-- A request for a pattern of a family is answered with the matcher of its own. -/
theorem getOrCompile_family (pattern : List Char) :
    (family E options past).getOrCompile pattern =
      { result := ownMatcher E options past pattern
        state := keeping options (requested past ++ [pattern]).eraseDups (ownMatcher E options past)
        notices := if pattern ∈ requested past then []
          else compileNotices (Matcher.ofPattern pattern options E) } := by
  by_cases hmem : pattern ∈ requested past
  · have hget : (family E options past).get? pattern = some (ownMatcher E options past pattern) :=
      List.lookup_graph _ (List.mem_eraseDups.mpr hmem)
    simp only [getOrCompile, hget, if_pos hmem, eraseDups_concat_of_mem hmem]
    rfl
  · have hget : (family E options past).get? pattern = none := by
      refine List.lookup_eq_none_iff.mpr fun entry hentry => ?_
      obtain ⟨other, hother, rfl⟩ := List.mem_map.mp hentry
      exact bne_iff_ne.mpr fun heq => hmem (heq ▸ List.mem_eraseDups.mp hother)
    simp only [getOrCompile, hget, if_neg hmem, eraseDups_concat_of_not_mem hmem, keeping,
      List.map_append, List.map_singleton, ownMatcher_eq_ofPattern hmem]
    rfl

/-- What a family keeps is replaced under one pattern. -/
theorem replace_keeping (patterns : List (List Char))
    (kept : List Char → Except (PatternError E) (Matcher E)) (pattern : List Char) (m : Matcher E) :
    (keeping options patterns kept).replace pattern m =
      keeping options patterns fun other => if other = pattern then .ok m else kept other := by
  simp only [replace, keeping, List.map_map, MatcherCache.mk.injEq, true_and]
  refine List.map_congr_left fun other _ => ?_
  simp only [Function.comp]
  split <;> rfl

/-- A family after a request for a pattern. -/
theorem family_request (pattern : List Char) (calls : List MatcherCall) :
    family E options (past ++ [.request pattern calls]) =
      keeping options (requested past ++ [pattern]).eraseDups fun other =>
        if other = pattern then (ownMatcher E options past pattern).map fun m => (m.use calls).state
        else ownMatcher E options past other := by
  have hrequested : requested (past ++ [.request pattern calls]) = requested past ++ [pattern] := by
    simp [requested, CacheCall.pattern?]
  rw [family, hrequested]
  congr 1
  exact funext fun other => ownMatcher_request options past pattern other calls

/-- A request to a family is answered by the matcher of its own, and leaves the family with that
matcher moved on. -/
theorem step_family (pattern : List Char) (calls : List MatcherCall) :
    ((family E options past).step (.request pattern calls)).seen =
        ownReply E options past pattern calls ∧
      ((family E options past).step (.request pattern calls)).state =
        family E options (past ++ [.request pattern calls]) := by
  simp only [step, useMatcher, getOrCompile_family, family_request]
  cases hm : Matcher.ofPattern pattern options E with
  | ok m =>
    have hown : ownMatcher E options past pattern = .ok (m.use (callsFor pattern past)).state := by
      rw [ownMatcher, hm]
      rfl
    simp only [hown, ownReply, hm, compileNotices, ite_self]
    constructor
    · simp [Reply.seen, Reply.map, Reply.mapState, Reply.after]
    · exact replace_keeping _ _ pattern _
  | error e =>
    have hown : ownMatcher E options past pattern = .error e := by
      rw [ownMatcher, hm]
      rfl
    simp only [hown, ownReply, hm, compileNotices]
    refine ⟨rfl, ?_⟩
    change keeping _ _ _ = keeping _ _ _
    congr 1
    funext other
    split
    · next heq => rw [heq, hown]; rfl
    · rfl

/-- One request takes a family to a family. -/
theorem step_family_state (call : CacheCall) :
    ((family E options past).step call).state = family E options (call.recordIn past) := by
  cases call with
  | request pattern calls => exact (step_family pattern calls).2
  | clear => rfl

/-- Requests take a family to a family. -/
theorem after_family (history : List CacheCall) :
    (family E options past).after history =
      family E options (history.foldl CacheCall.recordIn past) := by
  induction history generalizing past with
  | nil => rfl
  | cons call rest ih =>
    change ((family E options past).step call).state.after rest = _
    rw [step_family_state, ih]
    rfl

/-- From the start on a cache is the family of what was asked for since it was last cleared. -/
theorem after_empty (options : Options) (history : List CacheCall) :
    (empty options : MatcherCache E).after history = family E options (sinceClear history) :=
  (after_family history : (family E options []).after history = _)

/-- The size of a family is the number of different patterns asked for. -/
theorem size_family : (family E options past).size = (requested past).toFinset.card := by
  have hsame : (requested past).toFinset = (requested past).eraseDups.toFinset := by
    ext pattern
    simp [List.mem_eraseDups]
  rw [hsame, List.toFinset_card_of_nodup (nodup_eraseDups _), size, family, keeping,
    List.length_map]

/-- Everything that a family keeps names the pattern it stands under. -/
theorem pattern_of_mem_family {pattern : List Char} {kept : Except (PatternError E) (Matcher E)}
    (h : (pattern, kept) ∈ (family E options past).entries) :
    (∀ m, kept = .ok m → m.pattern = pattern) ∧ ∀ e, kept = .error e → e.pattern = pattern := by
  obtain ⟨other, -, heq⟩ := List.mem_map.mp h
  obtain ⟨rfl, rfl⟩ := Prod.mk.inj heq
  exact ownMatcher_pattern options past _

/-! ## Notices -/

/-- The notices of a request for a pattern that cannot be compiled, and of any other. -/
theorem noticesAbout_step {pattern : List Char} {e : PatternError E}
    (he : Matcher.ofPattern pattern options E = .error e) (other : List Char)
    (calls : List MatcherCall) :
    noticesAbout pattern ((family E options past).step (.request other calls)).notices =
      if other = pattern ∧ pattern ∉ requested past then
        [.patternFailed e.pattern e.message] else [] := by
  have hnotices : ((family E options past).step (.request other calls)).notices =
      (ownReply E options past other calls).notices :=
    congrArg Reply.notices (step_family other calls).1
  have hnamed := Matcher.pattern_of_ofPattern_error he
  rw [hnotices]
  by_cases heq : other = pattern
  · subst heq
    simp only [ownReply, he, true_and]
    by_cases hmem : other ∈ requested past <;>
      simp [hmem, noticesAbout, Notice.pattern?, hnamed]
  · rw [if_neg fun h => heq h.1]
    apply noticesAbout_eq_nil heq
    cases hm : Matcher.ofPattern other options E with
    | ok m =>
      have hpattern : (m.use (callsFor other past)).state.pattern = other := by
        rw [(m.use_pattern _).1, (Matcher.eq_of_ofPattern hm).2.1]
      have hown := ((m.use (callsFor other past)).state.use_pattern calls).2
      rw [hpattern] at hown
      simp only [ownReply, hm]
      exact hown
    | error e' =>
      have hother := Matcher.pattern_of_ofPattern_error hm
      simp only [ownReply, hm]
      split <;> simp [Notice.pattern?, hother]

/-- Between two clears a pattern that cannot be compiled leaves one notice, with the first request
for it. -/
theorem noticesAbout_noticesOf {pattern : List Char} {e : PatternError E}
    (he : Matcher.ofPattern pattern options E = .error e) {calls : List CacheCall}
    (hcalls : .clear ∉ calls) :
    noticesAbout pattern ((family E options past).noticesOf calls) =
      if pattern ∈ requested calls ∧ pattern ∉ requested past then
        [.patternFailed e.pattern e.message] else [] := by
  induction calls generalizing past with
  | nil => simp [noticesOf, noticesAbout, requested]
  | cons call rest ih =>
    cases call with
    | clear => simp at hcalls
    | request other uses =>
      rw [noticesOf, noticesAbout_append, noticesAbout_step he, (step_family other uses).2,
        ih fun h => hcalls (List.mem_cons_of_mem _ h)]
      simp only [requested, List.filterMap_append, List.filterMap_cons, CacheCall.pattern?,
        List.filterMap_nil, List.mem_append, List.mem_cons, List.not_mem_nil, or_false]
      by_cases heq : other = pattern
      · by_cases hmem : pattern ∈ past.filterMap CacheCall.pattern? <;> simp [heq, hmem]
      · have hne : ¬pattern = other := fun h => heq h.symm
        simp [heq, hne]

/-- A cache acts as a family of matchers: it replies to every request as a matcher of its own would,
it holds one thing for each pattern asked for, what stands under a pattern names it, and a pattern
that cannot be compiled is answered with the same failure every time. -/
structure ActsAsFamily (options : Options) (past : List CacheCall) (c : MatcherCache E) : Prop where
  replies : ∀ pattern calls,
    (c.step (.request pattern calls)).seen = ownReply E options past pattern calls
  size : c.size = (requested past).toFinset.card
  matcher : ∀ {pattern m}, (pattern, .ok m) ∈ c.entries → m.pattern = pattern
  failure : ∀ {pattern e}, (pattern, .error e) ∈ c.entries → e.pattern = pattern
  fails : ∀ {pattern e}, Matcher.ofPattern pattern options E = .error e → e.pattern = pattern ∧
    ∀ calls, (c.step (.request pattern calls)).result = some (.error e)

/-- A family acts as one. -/
theorem actsAsFamily_family : (family E options past).ActsAsFamily options past where
  replies pattern calls := (step_family pattern calls).1
  size := size_family
  matcher h := (pattern_of_mem_family h).1 _ rfl
  failure h := (pattern_of_mem_family h).2 _ rfl
  fails {pattern e} he := by
    refine ⟨Matcher.pattern_of_ofPattern_error he, fun calls => ?_⟩
    have hseen := (step_family pattern calls : _ = ownReply E options past _ _ ∧ _).1
    rw [ownReply, he] at hseen
    exact congrArg Reply.result hseen

end MatcherCache

/-- A cache is a family of independent matchers, each compiled when its pattern is first asked for
since the cache was last cleared. A pattern that cannot be compiled and is asked for between two
clears leaves one notice there. -/
theorem cache_answers_as_family (E : RegexEngine) (options : Options) (history : List CacheCall) :
    ((MatcherCache.empty options : MatcherCache E).after history).ActsAsFamily options
        (sinceClear history) ∧
      ∀ pattern e, Matcher.ofPattern pattern options E = .error e →
        ∀ calls, sinceClear history = [] → .clear ∉ calls → pattern ∈ requested calls →
          noticesAbout pattern
              (((MatcherCache.empty options : MatcherCache E).after history).noticesOf calls) =
            [.patternFailed e.pattern e.message] := by
  rw [MatcherCache.after_empty]
  refine ⟨MatcherCache.actsAsFamily_family, fun pattern e he calls hpast hcalls hmem => ?_⟩
  rw [MatcherCache.noticesAbout_noticesOf he hcalls, hpast]
  exact if_pos ⟨hmem, List.not_mem_nil⟩

/-- A class that is left open, asked for twice after a clear, with another pattern in between. -/
theorem cache_answers_as_family_open_class :
    ∃ e, Matcher.ofPattern "[".toList {} = .error e ∧ e.pattern = "[".toList ∧
      ((MatcherCache.empty {} : MatcherCache).after
        [.clear, .request "[".toList [], .request "a".toList [.reset],
          .request "[".toList []]).size = 2 ∧
      noticesAbout "[".toList
        (((MatcherCache.empty {} : MatcherCache).after [.request "[".toList [], .clear]).noticesOf
          [.request "[".toList [], .request "a".toList [.reset], .request "[".toList []]) =
            [.patternFailed e.pattern e.message] := by
  have hfails : (Matcher.ofPattern "[".toList {}).toOption.isNone = true := by cbv
  cases he : Matcher.ofPattern "[".toList {} with
  | ok m => exact absurd (he ▸ hfails) (by simp [Except.toOption])
  | error e =>
    have hacts := (cache_answers_as_family .builtIn {} [.clear, .request "[".toList [],
      .request "a".toList [.reset], .request "[".toList []]).1
    exact ⟨e, rfl, (hacts.fails he).1, hacts.size.trans (by decide),
      (cache_answers_as_family .builtIn {} [.request "[".toList [], .clear]).2 _ e he _ rfl
        (by simp) (by decide)⟩

end GrammarScan
