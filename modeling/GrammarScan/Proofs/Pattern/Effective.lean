import GrammarScan.Proofs.Pattern.Anchors

/-!
# Effective patterns

The pattern for one attempt is put together in steps that could be taken in another order. All ways
come to the same text: replacing references and then preparing the result anew, or spelling the
anchors first and replacing references in what that gives. A pattern that is kept is not prepared
again, which makes no difference since its end is expanded already.
-/

namespace GrammarScan.Pattern.RulePattern

/-- What preparing a pattern establishes: its ends are expanded, and what is noted beside it agrees
with it. -/
structure Prepared (p : RulePattern) : Prop where
  hasEnd_eq : hasEnd p.source = false
  spellings_eq : p.spellings =
    if Pattern.hasAnchor p.source then some (.ofText p.source) else none
  hasReferences_eq : p.hasReferences = Pattern.hasReferences p.source

/-- A pattern as written is prepared. -/
theorem Prepared.ofText (pattern : List Char) (ruleId : RuleId) :
    (RulePattern.ofText pattern ruleId).Prepared where
  hasEnd_eq := hasEnd_expandEnds pattern
  spellings_eq := by
    rw [RulePattern.ofText, hasAnchor_expandEnds]
  hasReferences_eq := rfl

/-- A prepared pattern stays prepared when its source is replaced. -/
theorem Prepared.withSource {p : RulePattern} (h : p.Prepared) (pattern : List Char) :
    (p.withSource pattern).Prepared := by
  unfold RulePattern.withSource
  split
  · exact h
  · exact .ofText pattern p.ruleId

/-- A pattern as written whose source is replaced time and again. -/
def withSources (p : RulePattern) (sources : List (List Char)) : RulePattern :=
  sources.foldl RulePattern.withSource p

/-- A prepared pattern stays prepared however often its source is replaced. -/
theorem Prepared.withSources {p : RulePattern} (h : p.Prepared) (sources : List (List Char)) :
    (p.withSources sources).Prepared := by
  induction sources generalizing p with
  | nil => exact h
  | cons source sources ih => exact ih (h.withSource source)

/-- The four spellings are those of the source. -/
theorem get_ofText (s : List Char) (atStart atSearch : Bool) :
    (AnchorSpellings.ofText s).get atStart atSearch = spellAnchors atStart atSearch s := by
  cases atStart <;> cases atSearch <;> rfl

/-- For one attempt a prepared pattern gives the spelling of its source, whether spellings are kept
or not. -/
theorem Prepared.resolveAnchors_eq {p : RulePattern} (h : p.Prepared) (atStart atSearch : Bool) :
    p.resolveAnchors atStart atSearch = spellAnchors atStart atSearch p.source := by
  rw [RulePattern.resolveAnchors, h.spellings_eq]
  by_cases hanchor : Pattern.hasAnchor p.source = true
  · simp only [hanchor, if_true, get_ofText]
  · simp only [Bool.not_eq_true] at hanchor
    simp [hanchor, spellAnchors_eq_self _ _ hanchor]

/-- Preparing a text that has no end to expand gives the spelling of that text. -/
theorem resolveAnchors_ofText {s : List Char} (h : hasEnd s = false) (ruleId : RuleId)
    (atStart atSearch : Bool) :
    (RulePattern.ofText s ruleId).resolveAnchors atStart atSearch =
      spellAnchors atStart atSearch s := by
  rw [(Prepared.ofText s ruleId).resolveAnchors_eq]
  simp only [RulePattern.ofText, expandEnds_eq_self h]

/-- An anchor in front of literal text stays where it may hold and gives way where it cannot. -/
theorem resolveAnchors_anchor_escape {c : Char} (hc : c ≠ 'z') (v : List Char) (ruleId : RuleId)
    (atStart atSearch : Bool) :
    (RulePattern.ofText ('\\' :: c :: escape v) ruleId).resolveAnchors atStart atSearch =
      (Piece.spelled atStart atSearch (.escaped c)).text ++ escape v := by
  have hexpand : expandEnds (escape v) = escape v := by
    simpa [expandEnds] using expandEnds_escape_append v []
  have hspell : spellAnchors atStart atSearch (escape v) = escape v := by
    simpa [spellAnchors] using spellAnchors_escape_append atStart atSearch v []
  have hsource : (RulePattern.ofText ('\\' :: c :: escape v) ruleId).source =
      '\\' :: c :: escape v := by
    simp [RulePattern.ofText, expandEnds, hc, hexpand]
  rw [(Prepared.ofText _ ruleId).resolveAnchors_eq, hsource, spellAnchors_escape, hspell]

/-- What becomes of the references of a prepared pattern: the result of replacing them, or the
source if that fails. -/
theorem Prepared.text_resolveReferences {p : RulePattern} (h : p.Prepared) (line : List Char)
    (captures : Captures) :
    (p.resolveReferences line captures).text =
      (p.tryResolveReferences line captures).toOption.getD p.source := by
  unfold RulePattern.resolveReferences
  by_cases hreferences : p.hasReferences = true
  · rw [if_pos hreferences]
    cases p.tryResolveReferences line captures <;> rfl
  · rw [if_neg hreferences]
    simp only [Bool.not_eq_true] at hreferences
    rw [RulePattern.tryResolveReferences, resolve_eq_self (h.hasReferences_eq ▸ hreferences)]
    rfl

/-- The text that a prepared pattern resolves to has no end to expand. -/
theorem Prepared.hasEnd_resolveReferences {p : RulePattern} (h : p.Prepared) (line : List Char)
    (captures : Captures) : hasEnd (p.resolveReferences line captures).text = false := by
  rw [h.text_resolveReferences]
  cases hresolved : p.tryResolveReferences line captures with
  | error fault => exact h.hasEnd_eq
  | ok text => exact hasEnd_of_resolve_eq_ok hresolved h.hasEnd_eq

/-- The pattern for an attempt is the spelling of the pattern whose references were looked at. -/
theorem Prepared.text_effective {p : RulePattern} (h : p.Prepared) (line : List Char)
    (captures : Captures) (atStart atSearch : Bool) :
    (p.effective line captures atStart atSearch).text =
      spellAnchors atStart atSearch (p.resolveReferences line captures).text := by
  have hend := h.hasEnd_resolveReferences line captures
  have hkept : ∀ source fault, p.resolveReferences line captures = .kept source fault →
      source = p.source := by
    intro source fault hresolved
    simp only [RulePattern.resolveReferences] at hresolved
    split at hresolved
    · split at hresolved <;> simp_all
    · simp_all
  rw [RulePattern.effective]
  cases hresolved : p.resolveReferences line captures with
  | kept source fault =>
    rw [hkept source fault hresolved]
    exact h.resolveAnchors_eq atStart atSearch
  | spliced text =>
    rw [hresolved] at hend
    exact resolveAnchors_ofText hend p.ruleId atStart atSearch

end RulePattern

/-- Every way to the pattern of an attempt gives the same text, for a pattern as written whose
source may have been replaced time and again. It is the spelling of the pattern whose references
were looked at, prepared anew under any rule. Replacing references in the spelling of the pattern
itself gives it as well, and fails exactly if and exactly as replacing them in the source does; then
it is that spelling. -/
theorem effective_eq_every_way (pattern : List Char) (ruleId : RuleId) (sources : List (List Char))
    (line : List Char) (captures : Captures) (atStart atSearch : Bool) :
    let p := (RulePattern.ofText pattern ruleId).withSources sources
    let text := (p.effective line captures atStart atSearch).text
    (∀ anyRule, text =
        (RulePattern.ofText (p.resolveReferences line captures).text anyRule).resolveAnchors
          atStart atSearch) ∧
      resolve line captures (p.resolveAnchors atStart atSearch) =
        (p.tryResolveReferences line captures).map (fun _ => text) ∧
      ∀ fault, p.tryResolveReferences line captures = .error fault →
        text = p.resolveAnchors atStart atSearch := by
  intro p text
  have h : p.Prepared := (RulePattern.Prepared.ofText pattern ruleId).withSources sources
  have htext : text = spellAnchors atStart atSearch (p.resolveReferences line captures).text :=
    h.text_effective line captures atStart atSearch
  refine ⟨fun anyRule => ?_, ?_, fun fault hfault => ?_⟩
  · rw [RulePattern.resolveAnchors_ofText (h.hasEnd_resolveReferences line captures)]
    exact htext
  · rw [h.resolveAnchors_eq, resolve_spellAnchors]
    change (p.tryResolveReferences line captures).map _ = _
    rw [htext, h.text_resolveReferences]
    cases p.tryResolveReferences line captures <;> rfl
  · rw [htext, h.text_resolveReferences, hfault, h.resolveAnchors_eq]
    rfl

end GrammarScan.Pattern
