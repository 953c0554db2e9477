import GrammarScan.Proofs.Pattern.Effective
import GrammarScan.Proofs.Pattern.References

/-!
# What preparing a pattern settles

All that is asked of a rule pattern is settled by its source and its rule: what is kept beside
them only saves looking again. So a pattern that keeps its source instead of being prepared anew
cannot be told from one that was, except by how it was written; and a pattern that is noted to
have no references is answered without a look at the captures, as replacing them would leave it. A
pattern that has some never comes out as it was, unless one of them cannot be replaced.
-/

namespace GrammarScan.Pattern

namespace RulePattern

/-! ## Replacing the source -/

/-- Two patterns of one rule that are answered alike. How they were written may differ. -/
structure UsedAlike (p q : RulePattern) : Prop where
  source_eq : p.source = q.source
  ruleId_eq : p.ruleId = q.ruleId
  hasAnchor_eq : p.hasAnchor = q.hasAnchor
  hasReferences_eq : p.hasReferences = q.hasReferences
  resolveAnchors_eq : ∀ atStart atSearch,
    p.resolveAnchors atStart atSearch = q.resolveAnchors atStart atSearch
  tryResolveReferences_eq : ∀ line captures,
    p.tryResolveReferences line captures = q.tryResolveReferences line captures
  resolveReferences_eq : ∀ line captures,
    p.resolveReferences line captures = q.resolveReferences line captures
  effective_eq : ∀ line captures atStart atSearch,
    p.effective line captures atStart atSearch = q.effective line captures atStart atSearch

/-- What is kept beside its source and its rule is settled by the source. -/
theorem Prepared.eq_of_source_eq {p q : RulePattern} (hp : p.Prepared) (hq : q.Prepared)
    (hsource : p.source = q.source) (hrule : p.ruleId = q.ruleId) :
    p = { q with authored := p.authored, hadEnd := p.hadEnd } := by
  have hspellings : p.spellings = q.spellings := by
    rw [hp.spellings_eq, hq.spellings_eq, hsource]
  have hreferences : p.hasReferences = q.hasReferences := by
    rw [hp.hasReferences_eq, hq.hasReferences_eq, hsource]
  cases p
  cases q
  simp_all

/-- How a pattern was written does not matter to what it is answered. -/
theorem usedAlike_of_eq {p q : RulePattern} {authored : List Char} {hadEnd : Bool}
    (h : p = { q with authored := authored, hadEnd := hadEnd }) : p.UsedAlike q := by
  subst h
  exact ⟨rfl, rfl, rfl, rfl, fun _ _ => rfl, fun _ _ => rfl, fun _ _ => rfl, fun _ _ _ _ => rfl⟩

/-- Keeping a pattern that has the source already comes to preparing that source anew, but for how
it was written. -/
theorem Prepared.withSource_eq {p : RulePattern} (h : p.Prepared) (s : List Char) :
    p.withSource s = { RulePattern.ofText s p.ruleId with
      authored := (p.withSource s).authored, hadEnd := (p.withSource s).hadEnd } := by
  by_cases hs : p.source = s
  · subst hs
    have hkept : p.withSource p.source = p := if_pos rfl
    have hsource : (RulePattern.ofText p.source p.ruleId).source = p.source :=
      expandEnds_eq_self h.hasEnd_eq
    rw [hkept]
    exact h.eq_of_source_eq (.ofText p.source p.ruleId) hsource.symm rfl
  · rw [RulePattern.withSource, if_neg hs]

/-- A pattern stays what preparing it as written gives, however often its source is replaced. -/
theorem withSources_eq_ofText {p : RulePattern} (h : p = ofText p.authored p.ruleId)
    (sources : List (List Char)) :
    p.withSources sources =
      ofText (p.withSources sources).authored (p.withSources sources).ruleId := by
  induction sources generalizing p with
  | nil => exact h
  | cons source sources ih =>
    refine ih (p := p.withSource source) ?_
    rw [withSource]
    split
    · exact h
    · rfl

end RulePattern

/-- Replacing the source of a rule pattern, which may have been done before, cannot be told from
preparing a pattern anew: both are answered alike, and they agree but for how they were written.
In that they differ just if the pattern has this source already and was written in another way.
Replacing the source by what it is, or by what was written, changes nothing. -/
theorem withSource_usedAlike_ofText (pattern : List Char) (ruleId : RuleId)
    (sources : List (List Char)) (s : List Char) :
    let p := (RulePattern.ofText pattern ruleId).withSources sources
    let replaced := p.withSource s
    let rebuilt := RulePattern.ofText s p.ruleId
    replaced.UsedAlike rebuilt ∧
      replaced = { rebuilt with authored := replaced.authored, hadEnd := replaced.hadEnd } ∧
      (replaced ≠ rebuilt ↔ s = p.source ∧ s ≠ p.authored) ∧
      p.withSource p.source = p ∧ p.withSource p.authored = p := by
  intro p replaced rebuilt
  have hp : p.Prepared := (RulePattern.Prepared.ofText pattern ruleId).withSources sources
  have hwritten : p = RulePattern.ofText p.authored p.ruleId :=
    RulePattern.withSources_eq_ofText rfl sources
  have hkept : p.withSource p.source = p := if_pos rfl
  refine ⟨RulePattern.usedAlike_of_eq (hp.withSource_eq s), hp.withSource_eq s, ?_, hkept, ?_⟩
  · by_cases hs : s = p.source
    · have hreplaced : replaced = p := (congrArg p.withSource hs).trans hkept
      rw [hreplaced, and_iff_right hs]
      refine not_congr ⟨fun h => ?_, fun h => ?_⟩
      · exact (congrArg RulePattern.authored h).symm
      · exact hwritten.trans (congrArg (RulePattern.ofText · p.ruleId) h.symm)
    · have hreplaced : replaced = rebuilt := if_neg (Ne.symm hs)
      simp [hreplaced, hs]
  · rw [RulePattern.withSource]
    split
    · rfl
    · exact hwritten.symm

/-- A pattern with an end, replaced by what that was expanded to, is still known to have had it. -/
example :
    ((RulePattern.ofText "\\z".toList ⟨1⟩).withSource endAssertion).hadEnd = true ∧
      (RulePattern.ofText endAssertion ⟨1⟩).hadEnd = false := by
  decide

/-! ## Looking at references -/

/-- The escapes that are found in a pattern hold a run of digits just if it has references. -/
theorem any_digits_findEscapes {resume offset : Nat} (hresume : resume ≤ offset) (s : List Char) :
    (findEscapes resume offset s).any (·.digits.isSome) = hasReferences s := by
  induction s using pieceInduction generalizing resume offset with
  | nil => rfl
  | dangling => simp [findEscapes, escapeAt?, hasReferences]
  | plain c s hc ih =>
    rw [findEscapes_plain hc, hasReferences_plain hc]
    exact ih (hresume.trans (Nat.le_add_right _ _))
  | escaped c s hc ih =>
    rw [findEscapes_escaped hc hresume, List.any_cons, ih (Nat.le_refl _)]
    simp [hasReferences, hc]
  | reference d digits s hd hdigits hs ih =>
    rw [findEscapes_reference hd hdigits hs hresume]
    simp [hasReferences, hd]

/-- Replacing references gives the pattern back just if it has none. -/
theorem resolve_eq_ok_self_iff {line : List Char} {captures : Captures} {s : List Char} :
    resolve line captures s = .ok s ↔ hasReferences s = false :=
  ⟨hasReferences_of_resolve_eq_ok, fun h => resolve_eq_self h line captures⟩

/-- A prepared pattern has no references and is kept, or all of them are replaced and it comes out
as another, or it is kept with the fault of one that cannot be replaced. -/
theorem RulePattern.Prepared.resolveReferences_cases {p : RulePattern} (h : p.Prepared)
    (line : List Char) (captures : Captures) :
    (p.hasReferences = false ∧ p.tryResolveReferences line captures = .ok p.source ∧
        p.resolveReferences line captures = .kept p.source none) ∨
      (∃ text, p.hasReferences = true ∧ p.tryResolveReferences line captures = .ok text ∧
        text ≠ p.source ∧ p.resolveReferences line captures = .spliced text) ∨
      ∃ cause, p.hasReferences = true ∧ p.tryResolveReferences line captures = .error cause ∧
        p.resolveReferences line captures =
          .kept p.source (some ⟨p.ruleId, p.source, cause⟩) := by
  by_cases hreferences : p.hasReferences = true
  · right
    cases hreplaced : p.tryResolveReferences line captures with
    | ok text =>
      refine .inl ⟨text, hreferences, rfl, ?_, ?_⟩
      · rintro rfl
        have hnone := resolve_eq_ok_self_iff.mp hreplaced
        rw [← h.hasReferences_eq, hreferences] at hnone
        exact Bool.noConfusion hnone
      · rw [RulePattern.resolveReferences, if_pos hreferences, hreplaced]
    | error cause =>
      refine .inr ⟨cause, hreferences, rfl, ?_⟩
      rw [RulePattern.resolveReferences, if_pos hreferences, hreplaced]
  · refine .inl ⟨Bool.not_eq_true _ ▸ hreferences, ?_, if_neg hreferences⟩
    rw [h.hasReferences_eq, Bool.not_eq_true] at hreferences
    exact resolve_eq_ok_self_iff.mpr hreferences

/-- The references of a rule pattern, whose source may have been replaced, are noted as a search
finds them, and replacing them gives the source just if there are none. A pattern whose references
were looked at is what replacing them comes to, or the source if one cannot be replaced. The
source is kept just where it is also the result: if there are no references, and if one cannot be
replaced. In the latter case, and in no other, the fault is told. -/
theorem resolveReferences_keeps_iff (pattern : List Char) (ruleId : RuleId)
    (sources : List (List Char)) (line : List Char) (captures : Captures) :
    let p := (RulePattern.ofText pattern ruleId).withSources sources
    let replaced := p.tryResolveReferences line captures
    let resolution := p.resolveReferences line captures
    p.hasReferences = (findEscapes 0 0 p.source).any (·.digits.isSome) ∧
      (p.hasReferences = false ↔ replaced = .ok p.source) ∧
      (∀ text, replaced = .ok text → resolution.text = text) ∧
      (∀ cause, replaced = .error cause → resolution.text = p.source) ∧
      (resolution.isKept = true ↔ p.hasReferences = false ∨ ∃ cause, replaced = .error cause) ∧
      (resolution.isKept = true ↔ resolution.text = p.source) ∧
      ∀ unresolved, resolution.fault? = some unresolved ↔
        ∃ cause, replaced = .error cause ∧ unresolved = ⟨p.ruleId, p.source, cause⟩ := by
  intro p replaced resolution
  have hp : p.Prepared := (RulePattern.Prepared.ofText pattern ruleId).withSources sources
  refine ⟨hp.hasReferences_eq.trans (any_digits_findEscapes (Nat.le_refl 0) p.source).symm, ?_⟩
  rcases hp.resolveReferences_cases line captures with ⟨hnone, hreplaced, hresolution⟩ |
    ⟨text, hsome, hreplaced, hother, hresolution⟩ | ⟨cause, hsome, hreplaced, hresolution⟩
  · simp [replaced, resolution, hnone, hreplaced, hresolution, Resolution.text, Resolution.isKept,
      Resolution.fault?]
  · simp [replaced, resolution, hsome, hreplaced, hresolution, hother, Resolution.text,
      Resolution.isKept, Resolution.fault?]
  · simp [replaced, resolution, hsome, hreplaced, hresolution, Resolution.text, Resolution.isKept,
      Resolution.fault?, eq_comm]

end GrammarScan.Pattern
