import GrammarScan.Proofs.Pattern.Effective
import GrammarScan.Proofs.Search.Laws

/-!
# Anchors that are left

A matcher remembers its searches in one of two modes, and a single test on its pattern chooses
which. The pattern has come there through three rewrites, each of which reads escapes in its own
way. Since all of them agree on the pieces of a pattern, an anchor is left in the pattern of an
attempt just if it was written and may hold, whatever the captures are; and no rewrite before the
last one makes or takes away a reference.
-/

namespace GrammarScan.Pattern

/-! ## Escapes among the pieces -/

/-- A pattern has an escape of some kind just if one of its pieces is such an escape. -/
theorem hasEscape_iff {kind : Char → Bool} (hkind : ∀ d, d.isDigit = true → kind d = false)
    {s : List Char} : hasEscape kind s = true ↔ ∃ c, kind c = true ∧ .escaped c ∈ pieces s := by
  rw [hasEscape_eq_any_pieces hkind, any_escapes_iff]

theorem hasSearchAnchor_iff {s : List Char} :
    hasSearchAnchor s = true ↔ .escaped 'G' ∈ pieces s := by
  rw [hasSearchAnchor, hasEscape_iff (eq_false_of_isDigit ['G'] (by simp) (by simp))]
  simp

theorem hasAnchor_iff {s : List Char} :
    hasAnchor s = true ↔ .escaped 'A' ∈ pieces s ∨ .escaped 'G' ∈ pieces s := by
  rw [hasAnchor, hasEscape_iff (eq_false_of_isDigit ['A', 'G'] (by simp) (by simp))]
  simp [or_and_right, exists_or]

/-- Among the pieces that a piece is expanded to, an anchor other than `\z` is the piece itself. -/
theorem escaped_mem_expanded_iff {c : Char} (hc : c = 'A' ∨ c = 'G') {p : Piece} :
    .escaped c ∈ p.expanded ↔ p = .escaped c := by
  cases p with
  | escaped d =>
    by_cases hd : d = 'z'
    · have hend : Piece.escaped c ∉ pieces endAssertion := by
        rcases hc with rfl | rfl <;> decide
      have hne : Piece.escaped 'z' ≠ .escaped c := by
        rcases hc with rfl | rfl <;> decide
      subst hd
      exact iff_of_false hend hne
    · rw [Piece.expanded, if_neg hd, List.mem_singleton, eq_comm]
  | plain d | reference digits | dangling => simp [Piece.expanded]

/-- Expanding `\z` makes and takes away no other anchor. -/
theorem escaped_mem_pieces_expandEnds {c : Char} (hc : c = 'A' ∨ c = 'G') {s : List Char} :
    .escaped c ∈ pieces (expandEnds s) ↔ .escaped c ∈ pieces s := by
  rw [pieces_expandEnds, List.mem_flatMap]
  simp only [escaped_mem_expanded_iff hc, exists_eq_right]

/-- A piece is spelled as an escape just if it is that escape, and no anchor that cannot hold. -/
theorem spelled_eq_escaped_iff {atStart atSearch : Bool} {p : Piece} {c : Char} :
    p.spelled atStart atSearch = .escaped c ↔
      p = .escaped c ∧ (c = 'A' → atStart = true) ∧ (c = 'G' → atSearch = true) := by
  have hself : Piece.spelled atStart atSearch (.escaped c) = .escaped c ↔
      (c = 'A' → atStart = true) ∧ (c = 'G' → atSearch = true) := by
    by_cases hA : c = 'A'
    · simp [hA, Piece.spelled]
    · by_cases hG : c = 'G' <;> simp [hA, hG, Piece.spelled]
  rw [← hself]
  constructor
  · intro h
    cases p with
    | escaped d =>
      rcases spelled_escaped atStart atSearch d with hkept | hnever
      · obtain rfl := Piece.escaped.inj (hkept.symm.trans h)
        exact ⟨rfl, h⟩
      · exact absurd (hnever.symm.trans h) (by simp)
    | plain d | reference digits | dangling => simp [Piece.spelled] at h
  · rintro ⟨rfl, h⟩
    exact h

/-- Spelling leaves an anchor just where it may hold, and leaves all other escapes. -/
theorem escaped_mem_pieces_spellAnchors {atStart atSearch : Bool} {c : Char} {s : List Char} :
    .escaped c ∈ pieces (spellAnchors atStart atSearch s) ↔
      .escaped c ∈ pieces s ∧ (c = 'A' → atStart = true) ∧ (c = 'G' → atSearch = true) := by
  rw [pieces_spellAnchors, List.mem_map]
  simp only [spelled_eq_escaped_iff]
  constructor
  · rintro ⟨p, hp, rfl, hholds⟩
    exact ⟨hp, hholds⟩
  · rintro ⟨hmem, hholds⟩
    exact ⟨_, hmem, rfl, hholds⟩

theorem hasSearchAnchor_spellAnchors (atStart atSearch : Bool) (s : List Char) :
    hasSearchAnchor (spellAnchors atStart atSearch s) =
      (atSearch && decide (Piece.escaped 'G' ∈ pieces s)) := by
  rw [Bool.eq_iff_iff, hasSearchAnchor_iff, escaped_mem_pieces_spellAnchors]
  simp [and_comm]

/-- Spelling for an attempt where neither anchor may hold changes a pattern just if it has one. -/
theorem spellAnchors_ne_self_iff {s : List Char} :
    spellAnchors false false s ≠ s ↔ hasAnchor s = true := by
  constructor
  · intro h
    by_contra hnone
    exact h (spellAnchors_eq_self false false (Bool.not_eq_true _ ▸ hnone))
  · intro h hself
    have hleft {c : Char} (hmem : .escaped c ∈ pieces s) :
        (c = 'A' → false = true) ∧ (c = 'G' → false = true) :=
      (escaped_mem_pieces_spellAnchors.mp (hself.symm ▸ hmem)).2
    rcases hasAnchor_iff.mp h with hmem | hmem
    · simpa using (hleft hmem).1
    · simpa using (hleft hmem).2

/-- Replacing references makes and takes away no anchor. -/
theorem escaped_mem_pieces_of_resolve_eq_ok {c : Char} (hc : c = 'A' ∨ c = 'G') {line : List Char}
    {captures : Captures} {s out : List Char} (h : resolve line captures s = .ok out) :
    .escaped c ∈ pieces out ↔ .escaped c ∈ pieces s := by
  have hanchor : (Piece.escaped c).isAnchor = true := by
    rcases hc with rfl | rfl <;> rfl
  have hkept := congrArg (Piece.escaped c ∈ ·) (filter_isAnchor_substitute line captures (pieces s))
  simpa [← pieces_of_resolve_eq_ok h, List.mem_filter, hanchor] using hkept

/-! ## References among the pieces -/

/-- Expanding `\z` makes and takes away no reference. -/
theorem hasReferences_expandEnds (s : List Char) :
    hasReferences (expandEnds s) = hasReferences s := by
  rw [hasReferences_eq_any_pieces, hasReferences_eq_any_pieces]
  exact any_pieces_expandEnds (by decide) s

/-- Spelling anchors makes and takes away no reference. -/
theorem hasReferences_spellAnchors (atStart atSearch : Bool) (s : List Char) :
    hasReferences (spellAnchors atStart atSearch s) = hasReferences s := by
  rw [hasReferences_eq_any_pieces, hasReferences_eq_any_pieces]
  apply any_pieces_spellAnchors
  intro c
  rcases spelled_escaped atStart atSearch c with h | h
  · rw [h]
  · rw [h]
    rfl

/-! ## The pattern of an attempt -/

/-- The anchors of a rule pattern whose references were looked at are those that were written. -/
theorem escaped_mem_pieces_resolveReferences {c : Char} (hc : c = 'A' ∨ c = 'G')
    (authored : List Char) (ruleId : RuleId) (line : List Char) (captures : Captures) :
    .escaped c ∈
        pieces ((RulePattern.ofText authored ruleId).resolveReferences line captures).text ↔
      .escaped c ∈ pieces authored := by
  rw [(RulePattern.Prepared.ofText authored ruleId).text_resolveReferences]
  cases hresolved : (RulePattern.ofText authored ruleId).tryResolveReferences line captures with
  | error fault => exact escaped_mem_pieces_expandEnds hc
  | ok text =>
    exact (escaped_mem_pieces_of_resolve_eq_ok hc hresolved).trans
      (escaped_mem_pieces_expandEnds hc)

/-- A rule pattern has an anchor just if its source has one among its pieces. -/
theorem RulePattern.Prepared.hasAnchor_iff {p : RulePattern} (h : p.Prepared) :
    p.hasAnchor = true ↔ Pattern.hasAnchor p.source = true := by
  rw [RulePattern.hasAnchor, h.spellings_eq]
  cases Pattern.hasAnchor p.source <;> simp

/-- The patterns of an attempt are tied to the search just if the attempt may be at the end of the
match before and the anchor for it was written, and a matcher that any engine makes of one of them
is in the mode for that. Off the start of the document no anchor to it is left. References are noted
as they were written, in every spelling; anchors are noted just if the source has one, which is just
if it is spelled in another way where none may hold. -/
theorem searchMode_of_attempt (authored : List Char) (ruleId : RuleId) (line : List Char)
    (captures : Captures) (atStart atSearch : Bool) :
    let p := RulePattern.ofText authored ruleId
    let spelled := p.resolveAnchors atStart atSearch
    let effective := (p.effective line captures atStart atSearch).text
    let anchored := atSearch && decide (Piece.escaped 'G' ∈ pieces authored)
    (hasSearchAnchor spelled = anchored ∧ hasSearchAnchor effective = anchored) ∧
      (∀ (E : RegexEngine) options (m : Matcher E), Matcher.ofPattern spelled options E = .ok m ∨
        Matcher.ofPattern effective options E = .ok m → m.searchAnchored = anchored) ∧
      (atStart = false →
        Piece.escaped 'A' ∉ pieces spelled ∧ Piece.escaped 'A' ∉ pieces effective) ∧
      ((p.hasReferences = true ↔ ∃ digits, Piece.reference digits ∈ pieces authored) ∧
        hasReferences authored = p.hasReferences ∧ hasReferences p.source = p.hasReferences ∧
        hasReferences spelled = p.hasReferences) ∧
      (p.hasAnchor = true ↔ Piece.escaped 'A' ∈ pieces p.source ∨
        Piece.escaped 'G' ∈ pieces p.source) ∧
      (p.hasAnchor = true ↔ p.resolveAnchors false false ≠ p.source) := by
  intro p spelled effective anchored
  have hp : p.Prepared := .ofText authored ruleId
  have hspelled : spelled = spellAnchors atStart atSearch p.source :=
    hp.resolveAnchors_eq atStart atSearch
  have heffective : effective =
      spellAnchors atStart atSearch (p.resolveReferences line captures).text :=
    hp.text_effective line captures atStart atSearch
  have hsource {c : Char} (hc : c = 'A' ∨ c = 'G') :
      Piece.escaped c ∈ pieces p.source ↔ Piece.escaped c ∈ pieces authored :=
    escaped_mem_pieces_expandEnds hc
  have hresolved {c : Char} (hc : c = 'A' ∨ c = 'G') :
      Piece.escaped c ∈ pieces (p.resolveReferences line captures).text ↔
        Piece.escaped c ∈ pieces authored :=
    escaped_mem_pieces_resolveReferences hc authored ruleId line captures
  have hmodes : hasSearchAnchor spelled = anchored ∧ hasSearchAnchor effective = anchored := by
    rw [hspelled, heffective, hasSearchAnchor_spellAnchors, hasSearchAnchor_spellAnchors]
    simp only [hsource (.inr rfl), hresolved (.inr rfl)]
    exact ⟨rfl, rfl⟩
  have hreferences : hasReferences p.source = hasReferences authored :=
    hasReferences_expandEnds authored
  refine ⟨hmodes, fun E options m hm => ?_, fun hstart => ?_, ⟨?_, ?_, ?_, ?_⟩, ?_, ?_⟩
  · rcases hm with hm | hm
    · exact (Matcher.eq_of_ofPattern hm).2.2.1.trans hmodes.1
    · exact (Matcher.eq_of_ofPattern hm).2.2.1.trans hmodes.2
  · rw [hspelled, heffective, escaped_mem_pieces_spellAnchors, escaped_mem_pieces_spellAnchors]
    simp [hstart]
  · rw [hp.hasReferences_eq, hreferences, hasReferences_eq_any_pieces, List.any_eq_true]
    constructor
    · rintro ⟨piece, hpiece, hreference⟩
      cases piece with
      | reference digits => exact ⟨digits, hpiece⟩
      | plain c | escaped c | dangling => simp [Piece.isReference] at hreference
    · rintro ⟨digits, hdigits⟩
      exact ⟨_, hdigits, rfl⟩
  · rw [hp.hasReferences_eq, hreferences]
  · rw [hp.hasReferences_eq]
  · rw [hspelled, hasReferences_spellAnchors, hp.hasReferences_eq]
  · rw [hp.hasAnchor_iff, hasAnchor_iff]
  · rw [hp.hasAnchor_iff, hp.resolveAnchors_eq, spellAnchors_ne_self_iff]

/-- An anchor of the search in front of a reference that stands for an escaped letter, and an end:
the pattern that is compiled has the anchor where the attempt may be behind a match. -/
theorem searchMode_of_attempt_escaped :
    ∃ m, Matcher.ofPattern
        ((RulePattern.ofText "\\G\\1\\z".toList ⟨7⟩).effective "\\G".toList
          ⟨[some ⟨0, 2⟩, some ⟨0, 2⟩]⟩ false true).text {} = .ok m ∧
      m.searchAnchored = true := by
  have hcompiled : (fun _ => ()) <$> Matcher.ofPattern
      ((RulePattern.ofText "\\G\\1\\z".toList ⟨7⟩).effective "\\G".toList
        ⟨[some ⟨0, 2⟩, some ⟨0, 2⟩]⟩ false true).text {} = .ok () := by cbv
  obtain ⟨m, hm, -⟩ := exists_of_map_eq_ok hcompiled
  refine ⟨m, hm, ?_⟩
  rw [(searchMode_of_attempt "\\G\\1\\z".toList ⟨7⟩ "\\G".toList
    ⟨[some ⟨0, 2⟩, some ⟨0, 2⟩]⟩ false true).2.1 .builtIn {} m (.inr hm)]
  decide

end GrammarScan.Pattern
