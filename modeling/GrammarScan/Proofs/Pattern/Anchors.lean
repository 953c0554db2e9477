import GrammarScan.Proofs.Pattern.Substitution

/-!
# Rewriting anchors

Expanding `\z` and spelling `\A` and `\G` both put other pieces in the place of single escapes. The
assertion for the end of the text holds none of the three anchors, so that expanding is done once
and for all; the stand-in for an anchor that cannot hold is a plain character, so that spelling
neither makes nor breaks any other piece. Literal text holds no anchor, and both rewrites pass over
it.
-/

namespace GrammarScan.Pattern

/-! ## Expanding `\z` -/

/-- The pieces that expanding puts in the place of a piece. -/
def Piece.expanded : Piece → List Piece
  | .escaped c => if c = 'z' then pieces endAssertion else [.escaped c]
  | p => [p]

theorem expandEnds_plain {c : Char} (hc : c ≠ '\\') (s : List Char) :
    expandEnds (c :: s) = c :: expandEnds s := by
  rw [expandEnds]
  intro _ _ h
  exact absurd h hc

theorem expandEnds_digits {digits : List Char} (hdigits : ∀ d ∈ digits, d.isDigit = true)
    (s : List Char) : expandEnds (digits ++ s) = digits ++ expandEnds s := by
  induction digits with
  | nil => rfl
  | cons d digits ih =>
    obtain ⟨hd, hrest⟩ := List.forall_mem_cons.mp hdigits
    rw [List.cons_append, expandEnds_plain (ne_backslash_of_isDigit hd), ih hrest]
    rfl

theorem startsWithDigit_expandEnds (s : List Char) :
    startsWithDigit (expandEnds s) = startsWithDigit s := by
  induction s using pieceInduction with
  | nil => rfl
  | dangling => rfl
  | plain c s hc ih => simp [expandEnds_plain hc, startsWithDigit]
  | escaped c s hc ih =>
    have hhead : endAssertion = '$' :: endAssertion.tail := by decide
    by_cases hz : c = 'z'
    · rw [expandEnds, if_pos hz, hhead]
      rfl
    · rw [expandEnds, if_neg hz]
      rfl
  | reference d digits s hd hdigits hs ih =>
    have hz : d ≠ 'z' := by
      rintro rfl
      simp at hd
    simp [expandEnds, hz, startsWithDigit]

/-- Expanding rewrites the pieces of a pattern one by one. -/
theorem pieces_expandEnds (s : List Char) :
    pieces (expandEnds s) = (pieces s).flatMap Piece.expanded := by
  induction s using pieceInduction with
  | nil => rfl
  | dangling => rfl
  | plain c s hc ih =>
    simp [expandEnds_plain hc, pieces_plain hc, Piece.expanded, ih]
  | escaped c s hc ih =>
    by_cases hz : c = 'z'
    · have hclosed : ∀ p ∈ pieces endAssertion, p.isClosed = true := by decide
      have happend := pieces_spell_append hclosed (expandEnds s)
      rw [spell_pieces] at happend
      simp [expandEnds, hz, pieces_escaped (c := 'z') rfl, Piece.expanded, happend, ih]
    · simp [expandEnds, hz, pieces_escaped hc, Piece.expanded, ih]
  | reference d digits s hd hdigits hs ih =>
    have hz : d ≠ 'z' := by
      rintro rfl
      simp at hd
    have hs' := (startsWithDigit_expandEnds s).trans hs
    simp [expandEnds, hz, expandEnds_digits hdigits, pieces_reference hd hdigits hs,
      pieces_reference hd hdigits hs', Piece.expanded, ih]

/-- A test that the assertion for the end passes just if `\z` does comes out alike on the expanded
pattern. -/
theorem any_pieces_expandEnds {test : Piece → Bool}
    (htest : (pieces endAssertion).any test = test (.escaped 'z')) (s : List Char) :
    (pieces (expandEnds s)).any test = (pieces s).any test := by
  rw [pieces_expandEnds, List.any_flatMap]
  congr 1
  funext p
  cases p with
  | escaped c =>
    by_cases hz : c = 'z'
    · simp only [Piece.expanded, hz, if_true, htest]
    · simp [Piece.expanded, hz]
  | plain c | reference digits | dangling => simp [Piece.expanded]

/-- The kinds of escape that tests on patterns ask for hold no digits. -/
theorem eq_false_of_isDigit {kind : Char → Bool} (letters : List Char)
    (hkind : ∀ c, kind c = true → c ∈ letters) (hletters : ∀ c ∈ letters, c.isDigit = false)
    (d : Char) (hd : d.isDigit = true) : kind d = false := by
  cases h : kind d with
  | false => rfl
  | true => simp [hletters d (hkind d h)] at hd

theorem hasEnd_eq_any_pieces (s : List Char) :
    hasEnd s = (pieces s).any (Piece.escapes (· = 'z')) :=
  hasEscape_eq_any_pieces (eq_false_of_isDigit ['z'] (by simp) (by simp)) s

theorem hasAnchor_eq_any_pieces (s : List Char) :
    hasAnchor s = (pieces s).any (Piece.escapes fun c => c = 'A' || c = 'G') :=
  hasEscape_eq_any_pieces (eq_false_of_isDigit ['A', 'G'] (by simp) (by simp)) s

/-- An expanded pattern has nothing left to expand. -/
theorem hasEnd_expandEnds (s : List Char) : hasEnd (expandEnds s) = false := by
  rw [hasEnd_eq_any_pieces, pieces_expandEnds, List.any_flatMap, List.any_eq_false]
  intro p _
  cases p with
  | escaped c =>
    by_cases hz : c = 'z'
    · simp only [Piece.expanded, hz, if_true]
      decide
    · simp [Piece.expanded, Piece.escapes, hz]
  | plain c | reference digits | dangling => simp [Piece.expanded, Piece.escapes]

/-- Expanding changes nothing where there is nothing to expand. -/
theorem expandEnds_eq_self {s : List Char} (h : hasEnd s = false) : expandEnds s = s := by
  apply pieces_injective
  rw [hasEnd_eq_any_pieces, List.any_eq_false] at h
  rw [pieces_expandEnds]
  refine (List.flatMap_congr fun p hp => ?_).trans (List.flatMap_singleton' (pieces s))
  cases p with
  | escaped c =>
    have hz : c ≠ 'z' := by simpa [Piece.escapes] using h _ hp
    simp [Piece.expanded, hz]
  | plain c | reference digits | dangling => rfl

/-- Expanding passes over text that is made to match itself. -/
theorem expandEnds_escape_append (text s : List Char) :
    expandEnds (escape text ++ s) = escape text ++ expandEnds s := by
  apply pieces_injective
  rw [pieces_expandEnds, pieces_escape_append, pieces_escape_append, pieces_expandEnds,
    List.flatMap_append]
  congr 1
  refine (List.flatMap_congr fun p hp => ?_).trans (List.flatMap_singleton' (literalPieces text))
  have hanchor := Piece.isAnchor_of_isLiteral (isLiteral_of_mem_literalPieces hp)
  cases p with
  | escaped c =>
    have hz : c ≠ 'z' := by
      rintro rfl
      simp [Piece.isAnchor, Piece.escapes] at hanchor
    simp [Piece.expanded, hz]
  | plain c | reference digits | dangling => rfl

/-- Expanding neither makes nor loses an anchor of the other two kinds. -/
theorem hasAnchor_expandEnds (s : List Char) : hasAnchor (expandEnds s) = hasAnchor s := by
  rw [hasAnchor_eq_any_pieces, hasAnchor_eq_any_pieces]
  exact any_pieces_expandEnds (by decide) s

/-! ## Spelling `\A` and `\G` -/

section

variable (atStart atSearch : Bool)

/-- The piece that spelling puts in the place of a piece. -/
def Piece.spelled : Piece → Piece
  | .escaped c =>
    if c = 'A' then if atStart then .escaped c else .plain neverOccurs
    else if c = 'G' then if atSearch then .escaped c else .plain neverOccurs
    else .escaped c
  | p => p

theorem spellAnchors_plain {c : Char} (hc : c ≠ '\\') (s : List Char) :
    spellAnchors atStart atSearch (c :: s) = c :: spellAnchors atStart atSearch s := by
  rw [spellAnchors]
  intro _ _ h
  exact absurd h hc

/-- An escape is spelled as its piece. -/
theorem spellAnchors_escape (c : Char) (s : List Char) :
    spellAnchors atStart atSearch ('\\' :: c :: s) =
      (Piece.spelled atStart atSearch (.escaped c)).text ++ spellAnchors atStart atSearch s := by
  rw [spellAnchors]
  congr 1
  simp only [Piece.spelled, anchorText]
  split
  · cases atStart <;> rfl
  · split
    · cases atSearch <;> rfl
    · rfl

theorem spellAnchors_digits {digits : List Char} (hdigits : ∀ d ∈ digits, d.isDigit = true)
    (s : List Char) :
    spellAnchors atStart atSearch (digits ++ s) = digits ++ spellAnchors atStart atSearch s := by
  induction digits with
  | nil => rfl
  | cons d digits ih =>
    obtain ⟨hd, hrest⟩ := List.forall_mem_cons.mp hdigits
    rw [List.cons_append, spellAnchors_plain _ _ (ne_backslash_of_isDigit hd), ih hrest]
    rfl

/-- References are no anchors. -/
theorem spellAnchors_reference {d : Char} {digits : List Char} (hd : d.isDigit = true)
    (hdigits : ∀ d ∈ digits, d.isDigit = true) (s : List Char) :
    spellAnchors atStart atSearch ('\\' :: d :: (digits ++ s)) =
      '\\' :: d :: (digits ++ spellAnchors atStart atSearch s) := by
  have hA : d ≠ 'A' := by
    rintro rfl
    simp at hd
  have hG : d ≠ 'G' := by
    rintro rfl
    simp at hd
  rw [spellAnchors_escape, spellAnchors_digits _ _ hdigits]
  simp [Piece.spelled, Piece.text, hA, hG]

/-- An escape stays as it is or gives way to the stand-in. -/
theorem spelled_escaped (c : Char) :
    Piece.spelled atStart atSearch (.escaped c) = .escaped c ∨
      Piece.spelled atStart atSearch (.escaped c) = .plain neverOccurs := by
  simp only [Piece.spelled]
  split
  · cases atStart <;> simp
  · split
    · cases atSearch <;> simp
    · exact Or.inl rfl

/-- An escape is spelled in closed pieces. -/
theorem isClosed_spelled {c : Char} (hc : c.isDigit = false) :
    (Piece.spelled atStart atSearch (.escaped c)).isClosed = true := by
  rcases spelled_escaped atStart atSearch c with h | h <;> rw [h]
  · simp [Piece.isClosed, hc]
  · decide

theorem startsWithDigit_spellAnchors (s : List Char) :
    startsWithDigit (spellAnchors atStart atSearch s) = startsWithDigit s := by
  induction s using pieceInduction with
  | nil => rfl
  | dangling => rfl
  | plain c s hc ih => simp [spellAnchors_plain _ _ hc, startsWithDigit]
  | escaped c s hc ih =>
    rw [spellAnchors_escape]
    rcases spelled_escaped atStart atSearch c with h | h <;> rw [h]
    · rfl
    · have hnever : neverOccurs.isDigit = false := by decide
      simp [Piece.text, startsWithDigit, hnever]
  | reference d digits s hd hdigits hs ih =>
    simp [spellAnchors_reference _ _ hd hdigits, startsWithDigit]

/-- Spelling rewrites the pieces of a pattern one by one. -/
theorem pieces_spellAnchors (s : List Char) :
    pieces (spellAnchors atStart atSearch s) =
      (pieces s).map (Piece.spelled atStart atSearch) := by
  induction s using pieceInduction with
  | nil => rfl
  | dangling => rfl
  | plain c s hc ih => simp [spellAnchors_plain _ _ hc, pieces_plain hc, Piece.spelled, ih]
  | escaped c s hc ih =>
    have hclosed : ∀ p ∈ [Piece.spelled atStart atSearch (.escaped c)], p.isClosed = true := by
      simpa using isClosed_spelled atStart atSearch hc
    have happend := pieces_spell_append hclosed (spellAnchors atStart atSearch s)
    simp only [spell_cons, spell_nil, List.append_nil] at happend
    rw [spellAnchors_escape, happend, pieces_escaped hc, ih, List.map_cons, List.singleton_append]
  | reference d digits s hd hdigits hs ih =>
    have hs' := (startsWithDigit_spellAnchors atStart atSearch s).trans hs
    rw [spellAnchors_reference _ _ hd hdigits, pieces_reference hd hdigits hs',
      pieces_reference hd hdigits hs, ih]
    rfl

/-- A test that comes out alike on every escape and its spelling does so on the spelled pattern. -/
theorem any_pieces_spellAnchors {test : Piece → Bool}
    (htest : ∀ c, test (Piece.spelled atStart atSearch (.escaped c)) = test (.escaped c))
    (s : List Char) :
    (pieces (spellAnchors atStart atSearch s)).any test = (pieces s).any test := by
  rw [pieces_spellAnchors, List.any_map]
  congr 1
  funext p
  cases p with
  | escaped c => exact htest c
  | plain c | reference digits | dangling => rfl

/-- Spelling passes over literal pieces. -/
theorem spelled_of_isLiteral {p : Piece} (h : p.isLiteral = true) :
    Piece.spelled atStart atSearch p = p := by
  have hanchor := Piece.isAnchor_of_isLiteral h
  cases p with
  | escaped c =>
    simp only [Piece.isAnchor, Piece.escapes, Bool.or_eq_false_iff, decide_eq_false_iff_not]
      at hanchor
    simp [Piece.spelled, hanchor]
  | plain c | reference digits | dangling => rfl

/-- Spelling passes over text that is made to match itself. -/
theorem spellAnchors_escape_append (text s : List Char) :
    spellAnchors atStart atSearch (escape text ++ s) =
      escape text ++ spellAnchors atStart atSearch s := by
  apply pieces_injective
  rw [pieces_spellAnchors, pieces_escape_append, pieces_escape_append, pieces_spellAnchors,
    List.map_append]
  congr 1
  refine (List.map_congr_left fun p hp => ?_).trans (List.map_id (literalPieces text))
  exact spelled_of_isLiteral _ _ (isLiteral_of_mem_literalPieces hp)

/-- Spelling changes nothing where there is no anchor. -/
theorem spellAnchors_eq_self {s : List Char} (h : hasAnchor s = false) :
    spellAnchors atStart atSearch s = s := by
  apply pieces_injective
  rw [hasAnchor_eq_any_pieces, List.any_eq_false] at h
  rw [pieces_spellAnchors]
  refine (List.map_congr_left fun p hp => ?_).trans (List.map_id (pieces s))
  cases p with
  | escaped c =>
    have hanchor := h _ hp
    simp only [Piece.escapes, Bool.or_eq_true, decide_eq_true_eq, not_or] at hanchor
    simp [Piece.spelled, hanchor]
  | plain c | reference digits | dangling => rfl

/-- Spelling anchors and replacing references do not interfere: it is the same to do the one or the
other first, and what cannot be replaced in the one order cannot be replaced in the other. -/
theorem resolve_spellAnchors (line : List Char) (captures : Captures) (s : List Char) :
    resolve line captures (spellAnchors atStart atSearch s) =
      (resolve line captures s).map (spellAnchors atStart atSearch) := by
  induction s using pieceInduction with
  | nil => rfl
  | dangling => rfl
  | plain c s hc ih =>
    rw [spellAnchors_plain _ _ hc, resolve_plain _ _ hc, resolve_plain _ _ hc, ih]
    cases resolve line captures s <;> simp [Except.map, spellAnchors_plain _ _ hc]
  | escaped c s hc ih =>
    rw [spellAnchors_escape, resolve_escaped _ _ hc]
    have hspelled (t : List Char) : resolve line captures
        ((Piece.spelled atStart atSearch (.escaped c)).text ++ t) =
          (resolve line captures t).map
            ((Piece.spelled atStart atSearch (.escaped c)).text ++ ·) := by
      have hclosed := isClosed_spelled atStart atSearch hc
      cases hp : Piece.spelled atStart atSearch (.escaped c) with
      | plain d =>
        have hd : d ≠ '\\' := by simpa [hp, Piece.isClosed] using hclosed
        exact resolve_plain _ _ hd t
      | escaped d =>
        have hd : d.isDigit = false := by simpa [hp, Piece.isClosed] using hclosed
        exact resolve_escaped _ _ hd t
      | reference digits => simp [hp, Piece.isClosed] at hclosed
      | dangling => simp [hp, Piece.isClosed] at hclosed
    rw [hspelled, ih]
    cases resolve line captures s <;> simp [Except.map, spellAnchors_escape]
  | reference d digits s hd hdigits hs ih =>
    have hs' := (startsWithDigit_spellAnchors atStart atSearch s).trans hs
    rw [spellAnchors_reference _ _ hd hdigits, resolve_reference _ _ hd hdigits hs',
      resolve_reference _ _ hd hdigits hs, ih]
    cases hcaptured : captured line captures (d :: digits) with
    | error fault => rfl
    | ok text =>
      obtain ⟨literal, rfl⟩ := exists_eq_escape_of_captured hcaptured
      cases resolve line captures s with
      | error fault => rfl
      | ok rest =>
        simp [Except.map, bind, Except.bind, pure, Except.pure, spellAnchors_escape_append]

end

/-- Replacing references makes no end to expand. -/
theorem hasEnd_of_resolve_eq_ok {line : List Char} {captures : Captures} {s out : List Char}
    (h : resolve line captures s = .ok out) (hs : hasEnd s = false) : hasEnd out = false := by
  rw [hasEnd_eq_any_pieces, List.any_eq_false] at hs ⊢
  intro p hp hend
  have hanchor : p.isAnchor = true := by
    cases p <;> simp_all [Piece.isAnchor, Piece.escapes]
  have hmem : p ∈ (pieces s).filter Piece.isAnchor := by
    rw [← filter_isAnchor_substitute line captures, ← pieces_of_resolve_eq_ok h]
    exact List.mem_filter.mpr ⟨hp, hanchor⟩
  exact hs p (List.mem_filter.mp hmem).1 hend

end GrammarScan.Pattern
