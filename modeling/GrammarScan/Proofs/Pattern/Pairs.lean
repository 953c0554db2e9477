import GrammarScan.Pattern.Scan
import GrammarScan.Proofs.Pattern.Effective
import GrammarScan.Proofs.Pattern.References

/-!
# Patterns by their pairs

For anchors and ends a digit is a character like any other: a pattern falls into backslashes
paired with the character behind them, single characters, and perhaps a backslash at the very end.
Expanding ends and spelling anchors rewrite a pattern pair by pair, and each leaves the pairs in
step that it does not rewrite. Going through a pattern once, with slices cut out between its ends
and four spellings made side by side, comes to the same. Nothing is said here about references.
-/

namespace GrammarScan.Pattern

/-- The pieces of a pattern in which digits are read like other characters. -/
def pairs : List Char → List Piece
  | '\\' :: c :: s => .escaped c :: pairs s
  | ['\\'] => [.dangling]
  | c :: s => .plain c :: pairs s
  | [] => []

/-- Patterns are built from the back by putting a pair or a single character in front. -/
theorem pairInduction {motive : List Char → Prop} (nil : motive []) (dangling : motive ['\\'])
    (plain : ∀ c s, c ≠ '\\' → motive s → motive (c :: s))
    (escaped : ∀ c s, motive s → motive ('\\' :: c :: s)) (s : List Char) : motive s := by
  induction s using pairs.induct with
  | case1 c s ih => exact escaped c s ih
  | case2 => exact dangling
  | case3 c s hpair hlone ih =>
    refine plain c s ?_ ih
    rintro rfl
    cases s with
    | nil => exact hlone rfl rfl
    | cons d s => exact hpair d s rfl rfl
  | case4 => exact nil

@[simp] theorem pairs_nil : pairs [] = [] := rfl

@[simp] theorem pairs_dangling : pairs ['\\'] = [.dangling] := rfl

@[simp] theorem pairs_escaped (c : Char) (s : List Char) :
    pairs ('\\' :: c :: s) = .escaped c :: pairs s := rfl

theorem pairs_plain {c : Char} (hc : c ≠ '\\') (s : List Char) :
    pairs (c :: s) = .plain c :: pairs s := by
  rw [pairs]
  · exact fun _ _ h => absurd h hc
  · exact fun h => absurd h hc

/-- The pairs of a pattern spell it. -/
theorem spell_pairs (s : List Char) : spell (pairs s) = s := by
  induction s using pairInduction with
  | nil => rfl
  | dangling => rfl
  | plain c s hc ih => rw [pairs_plain hc, spell_cons, ih, Piece.text, List.singleton_append]
  | escaped c s ih => rw [pairs_escaped, spell_cons, ih]; rfl

/-- A pattern has an escape of some kind just if one of its pairs is one. -/
theorem hasEscape_eq_any_pairs (kind : Char → Bool) (s : List Char) :
    hasEscape kind s = (pairs s).any (Piece.escapes kind) := by
  induction s using pairInduction with
  | nil => rfl
  | dangling => rfl
  | plain c s hc ih => rw [hasEscape_plain hc, pairs_plain hc, ih]; rfl
  | escaped c s ih => rw [hasEscape, pairs_escaped, ih]; rfl

theorem hasEnd_iff_mem_pairs {s : List Char} : hasEnd s = true ↔ .escaped 'z' ∈ pairs s := by
  rw [hasEnd, hasEscape_eq_any_pairs, any_escapes_iff]
  simp

theorem hasAnchor_iff_mem_pairs {s : List Char} :
    hasAnchor s = true ↔ .escaped 'A' ∈ pairs s ∨ .escaped 'G' ∈ pairs s := by
  rw [hasAnchor, hasEscape_eq_any_pairs, any_escapes_iff]
  simp [or_and_right, exists_or]

/-! ## Ends -/

/-- Expanding ends rewrites a pattern pair by pair. -/
theorem expandEnds_eq_flatMap_pairs (s : List Char) :
    expandEnds s =
      (pairs s).flatMap fun p => if p = .escaped 'z' then endAssertion else p.text := by
  induction s using pairInduction with
  | nil => rfl
  | dangling => rfl
  | plain c s hc ih =>
    rw [expandEnds_plain hc, pairs_plain hc, List.flatMap_cons, ← ih]
    rfl
  | escaped c s ih =>
    rw [expandEnds, pairs_escaped, List.flatMap_cons, ← ih]
    by_cases hz : c = 'z'
    · simp only [hz, if_true]
    · simp only [hz, Piece.escaped.injEq, if_false]
      rfl

/-- Only the empty text has no bytes. -/
theorem byteLength_eq_zero_iff {s : List Char} : byteLength s = 0 ↔ s = [] := by
  cases s with
  | nil => exact iff_of_true rfl rfl
  | cons c s =>
    have hpos := c.utf8Size_pos
    simp only [byteLength, reduceCtorEq, iff_false]
    omega

/-- At the end of a pattern, what was passed since the last expanded end is still to be cut out. -/
theorem Scan.finish_eq {pattern : List Char} (done pending output : List Char) (anchored : Bool)
    (hpattern : pattern = done ++ pending) (houtput : done = [] → output = []) :
    Scan.finish pattern ⟨output, byteLength done, anchored⟩ =
      some ⟨output ++ pending, !done.isEmpty, anchored⟩ := by
  rw [Scan.finish]
  by_cases hdone : done = []
  · rw [if_pos (byteLength_eq_zero_iff.mpr hdone)]
    simp [hpattern, houtput hdone, hdone]
  · rw [if_neg (mt byteLength_eq_zero_iff.mp hdone)]
    have hslice : slice? pattern ⟨byteLength done, byteLength pattern⟩ = some pending := by
      simpa [hpattern] using slice?_middle done pending []
    simp [hslice, hdone]

theorem Scan.advance_plain {pattern : List Char} {c : Char} (hc : c ≠ '\\') (scan : Scan)
    (offset : Nat) (rest : List (Nat × Char)) :
    Scan.advance pattern scan ((offset, c) :: rest) = Scan.advance pattern scan rest := by
  rw [Scan.advance]
  exact fun _ _ _ _ h => absurd (Prod.mk.inj h).2 hc

/-- A pattern that was gone through up to some place comes to what expanding ends makes of the rest,
behind what was put out and what was passed since. What lies behind an expanded end was put out. -/
theorem Scan.finish_advance {pattern : List Char} (done pending s output : List Char)
    (anchored : Bool) (hpattern : pattern = done ++ pending ++ s)
    (houtput : done = [] → output = []) :
    (Scan.advance pattern ⟨output, byteLength done, anchored⟩
        (withOffsets (byteLength (done ++ pending)) s)).bind (Scan.finish pattern) =
      some ⟨output ++ pending ++ expandEnds s, !done.isEmpty || hasEnd s,
        anchored || hasAnchor s⟩ := by
  induction s using pairInduction generalizing done pending output anchored with
  | nil =>
    rw [withOffsets, Scan.advance, Option.bind_some,
      Scan.finish_eq done pending output anchored (by simpa using hpattern) houtput]
    simp [expandEnds, hasEnd, hasAnchor, hasEscape]
  | dangling =>
    simp only [withOffsets, Scan.advance, Option.bind_some]
    rw [Scan.finish_eq done (pending ++ ['\\']) output anchored (by simpa using hpattern) houtput]
    simp [expandEnds, hasEnd, hasAnchor, hasEscape]
  | plain c s hc ih =>
    have hnext : byteLength (done ++ pending) + c.utf8Size =
        byteLength (done ++ (pending ++ [c])) := byteLength_pending done pending [c]
    have hend : hasEnd (c :: s) = hasEnd s := hasEscape_plain hc s
    have hanchor : hasAnchor (c :: s) = hasAnchor s := hasEscape_plain hc s
    rw [withOffsets, Scan.advance_plain hc, hnext,
      ih done (pending ++ [c]) output anchored (by simp [hpattern]) houtput, expandEnds_plain hc,
      hend, hanchor]
    simp
  | escaped c s ih =>
    have hnext : byteLength (done ++ pending) + '\\'.utf8Size + c.utf8Size =
        byteLength (done ++ (pending ++ ['\\', c])) :=
      (Nat.add_assoc _ _ _).trans (byteLength_pending done pending ['\\', c])
    have hend : hasEnd ('\\' :: c :: s) = (decide (c = 'z') || hasEnd s) := rfl
    have hanchor : hasAnchor ('\\' :: c :: s) = ((c = 'A' || c = 'G') || hasAnchor s) := rfl
    rw [withOffsets, withOffsets, Scan.advance, hnext, hend, hanchor, expandEnds]
    by_cases hz : c = 'z'
    · subst hz
      have hslice : slice? pattern ⟨byteLength done, byteLength (done ++ pending)⟩ = some pending :=
        hpattern ▸ slice?_middle done pending _
      have hlast : byteLength (done ++ pending) + 2 =
          byteLength (done ++ (pending ++ ['\\', 'z'])) :=
        byteLength_pending done pending ['\\', 'z']
      -- Behind the expanded end nothing is pending.
      have hrest := ih (done ++ (pending ++ ['\\', 'z'])) [] (output ++ pending ++ endAssertion)
        anchored (by simp [hpattern]) (by simp)
      rw [List.append_nil] at hrest
      simp only [if_true, hslice, Option.bind_eq_bind, Option.bind_some, hlast, hrest]
      simp
    · rw [if_neg hz, if_neg hz,
        ih done (pending ++ ['\\', c]) output _ (by simp [hpattern]) houtput]
      simp [hz, Bool.or_assoc]

/-- Going through a pattern asks for slices only, and expands its ends. -/
theorem scan_eq (s : List Char) : scan s = some ⟨expandEnds s, hasEnd s, hasAnchor s⟩ :=
  Scan.finish_advance [] [] s [] false rfl fun _ => rfl

/-- Going through a pattern expands each `\z` among its pairs and changes nothing else. It notes
whether there was one, and whether `\A` or `\G` is among the pairs. None is left to expand, so
that going through the result keeps it as it is. A rule pattern is prepared with what going
through it comes to. -/
theorem scan_by_pairs (s : List Char) (ruleId : RuleId) :
    ∃ scanned, scan s = some scanned ∧
      (scanned.source =
          (pairs s).flatMap fun p => if p = .escaped 'z' then endAssertion else p.text) ∧
      (scanned.isRewritten = true ↔ .escaped 'z' ∈ pairs s) ∧
      (scanned.hasAnchor = true ↔ .escaped 'A' ∈ pairs s ∨ .escaped 'G' ∈ pairs s) ∧
      .escaped 'z' ∉ pairs scanned.source ∧
      scan scanned.source = some ⟨scanned.source, false, scanned.hasAnchor⟩ ∧
      (RulePattern.ofText s ruleId).source = scanned.source ∧
      (RulePattern.ofText s ruleId).hadEnd = scanned.isRewritten ∧
      (RulePattern.ofText s ruleId).hasAnchor = scanned.hasAnchor := by
  refine ⟨_, scan_eq s, expandEnds_eq_flatMap_pairs s, hasEnd_iff_mem_pairs,
    hasAnchor_iff_mem_pairs, ?_, ?_, rfl, rfl, ?_⟩
  · rw [← hasEnd_iff_mem_pairs, hasEnd_expandEnds]
    exact Bool.false_ne_true
  · rw [scan_eq, expandEnds_eq_self (hasEnd_expandEnds s), hasEnd_expandEnds, hasAnchor_expandEnds]
  · rw [RulePattern.hasAnchor, RulePattern.ofText]
    cases hasAnchor s <;> rfl

/-- An end in front of a character of two bytes, a `z` behind an escaped backslash, another end,
and a backslash at the very end. -/
example : scan "\\zé\\\\z\\z\\".toList =
    some ⟨"$(?!\\n)(?<!\\n)é\\\\z$(?!\\n)(?<!\\n)\\".toList, true, false⟩ := by
  decide

/-! ## Anchors -/

section

variable (atStart atSearch : Bool)

/-- Spelling anchors rewrites a pattern pair by pair. -/
theorem spellAnchors_eq_spell_pairs (s : List Char) :
    spellAnchors atStart atSearch s = spell ((pairs s).map (Piece.spelled atStart atSearch)) := by
  induction s using pairInduction with
  | nil => rfl
  | dangling => rfl
  | plain c s hc ih =>
    rw [spellAnchors_plain _ _ hc, pairs_plain hc, List.map_cons, spell_cons, ih]
    rfl
  | escaped c s ih => rw [spellAnchors_escape, pairs_escaped, List.map_cons, spell_cons, ih]

/-- Spelling anchors makes and takes away no end. -/
theorem hasEnd_spellAnchors (s : List Char) :
    hasEnd (spellAnchors atStart atSearch s) = hasEnd s := by
  rw [hasEnd_eq_any_pieces, hasEnd_eq_any_pieces]
  apply any_pieces_spellAnchors
  intro c
  by_cases hz : c = 'z'
  · subst hz
    rfl
  · rcases spelled_escaped atStart atSearch c with h | h <;> simp [h, Piece.escapes, hz]

/-- A piece that is spelled twice is an anchor that may hold both times, or the stand-in. -/
theorem spelled_spelled (stillAtStart stillAtSearch : Bool) (p : Piece) :
    (p.spelled atStart atSearch).spelled stillAtStart stillAtSearch =
      p.spelled (atStart && stillAtStart) (atSearch && stillAtSearch) := by
  cases p with
  | escaped c =>
    by_cases hA : c = 'A'
    · cases atStart <;> simp [Piece.spelled, hA]
    · by_cases hG : c = 'G'
      · cases atSearch <;> simp [Piece.spelled, hG]
      · simp [Piece.spelled, hA, hG]
  | plain c | reference digits | dangling => rfl

theorem spellAnchors_spellAnchors (stillAtStart stillAtSearch : Bool) (s : List Char) :
    spellAnchors stillAtStart stillAtSearch (spellAnchors atStart atSearch s) =
      spellAnchors (atStart && stillAtStart) (atSearch && stillAtSearch) s := by
  apply pieces_injective
  simp only [pieces_spellAnchors, List.map_map]
  exact List.map_congr_left fun p _ => spelled_spelled atStart atSearch stillAtStart stillAtSearch p

end

/-- Where both anchors may hold nothing is spelled in another way. -/
theorem spellAnchors_true_true (s : List Char) : spellAnchors true true s = s := by
  have hspelled (p : Piece) : p.spelled true true = p := by
    cases p with
    | escaped c => simp [Piece.spelled]
    | plain c | reference digits | dangling => rfl
  rw [spellAnchors_eq_spell_pairs, List.map_congr_left fun p _ => hspelled p, List.map_id',
    spell_pairs]

namespace AnchorSpellings

theorem extend_extend (v : AnchorSpellings) (first second : Bool → Bool → List Char) :
    (v.extend first).extend second =
      v.extend fun atStart atSearch => first atStart atSearch ++ second atStart atSearch := by
  simp only [extend, List.append_assoc]

/-- Going through a pattern puts behind each spelling the spelling of the pattern. -/
theorem appendText_eq (v : AnchorSpellings) (s : List Char) :
    v.appendText s = v.extend fun atStart atSearch => spellAnchors atStart atSearch s := by
  induction s using pairInduction generalizing v with
  | nil => simp [appendText, extend, spellAnchors]
  | dangling => rfl
  | plain c s hc ih =>
    have happend : v.appendText (c :: s) = (v.extend fun _ _ => [c]).appendText s := by
      rw [appendText]
      exact fun _ _ h => absurd h hc
    simp only [happend, ih, extend_extend, spellAnchors_plain _ _ hc, List.singleton_append]
  | escaped c s ih => simp only [appendText, ih, extend_extend, spellAnchors]

/-- Spellings that are made side by side are the four spellings of the pattern. -/
theorem sideBySide_eq (s : List Char) : sideBySide s = .ofText s :=
  appendText_eq _ s

end AnchorSpellings

/-- The spelling of a rule pattern is its source in which each pair that is `\A` stays if it may
hold and gives way to the stand-in if it cannot, and so for `\G`; all else is as it was. Where
both may hold it is the source. Preparing a spelling under any rule and spelling it again is
spelling the source where both attempts allow it. The spellings that are kept are those that are
made side by side. -/
theorem resolveAnchors_by_pairs (pattern : List Char) (ruleId : RuleId) :
    let p := RulePattern.ofText pattern ruleId
    (∀ atStart atSearch, p.resolveAnchors atStart atSearch =
        spell ((pairs p.source).map (Piece.spelled atStart atSearch))) ∧
      p.resolveAnchors true true = p.source ∧
      (∀ atStart atSearch stillAtStart stillAtSearch anyRule,
        (RulePattern.ofText (p.resolveAnchors atStart atSearch) anyRule).resolveAnchors
            stillAtStart stillAtSearch =
          p.resolveAnchors (atStart && stillAtStart) (atSearch && stillAtSearch)) ∧
      p.spellings = if hasAnchor pattern then some (.sideBySide p.source) else none := by
  intro p
  have hp : p.Prepared := .ofText pattern ruleId
  refine ⟨fun atStart atSearch => ?_, ?_,
    fun atStart atSearch stillAtStart stillAtSearch anyRule => ?_, ?_⟩
  · rw [hp.resolveAnchors_eq, spellAnchors_eq_spell_pairs]
  · rw [hp.resolveAnchors_eq, spellAnchors_true_true]
  · have hend : hasEnd (p.resolveAnchors atStart atSearch) = false := by
      rw [hp.resolveAnchors_eq, hasEnd_spellAnchors, hp.hasEnd_eq]
    rw [RulePattern.resolveAnchors_ofText hend, hp.resolveAnchors_eq, hp.resolveAnchors_eq,
      spellAnchors_spellAnchors]
  · rw [AnchorSpellings.sideBySide_eq]
    rfl

end GrammarScan.Pattern
