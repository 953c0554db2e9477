import GrammarScan.Proofs.Pattern.Pieces
import GrammarScan.Pattern.Rule
import Mathlib

/-!
# Replacing references

What a reference stands for is spliced into the pattern as literal text. Escaping writes it in
closed pieces, so whatever was captured, nothing behind the splice is read in another way than
before: each reference gives way to pieces that match single characters, and all other pieces stay
as they are and in order.
-/

namespace GrammarScan.Pattern

/-! ## Literal text -/

/-- Whether a piece stands for one character and is written as escaping writes that character. -/
def Piece.isLiteral : Piece → Bool
  | .plain c => !isSpecial c
  | .escaped c => isSpecial c
  | .reference _ | .dangling => false

/-- The pieces of a text that is made to match itself. -/
def literalPieces (text : List Char) : List Piece :=
  text.map fun c => if isSpecial c then .escaped c else .plain c

/-- Digits need no backslash. -/
theorem isSpecial_of_isDigit {c : Char} (h : c.isDigit = true) : isSpecial c = false := by
  have hdigits : ∀ n : Fin 58, 48 ≤ n.val → isSpecial (Char.ofNat n.val) = false := by decide
  simp only [Char.isDigit, Bool.and_eq_true, decide_eq_true_eq, ge_iff_le] at h
  have hlo : 48 ≤ c.toNat := h.1
  have hhi : c.toNat ≤ 57 := h.2
  rw [← Char.ofNat_toNat c]
  exact hdigits ⟨c.toNat, by omega⟩ hlo

/-- Letters need no backslash. -/
theorem isSpecial_of_isAlpha {c : Char} (h : c.isAlpha = true) : isSpecial c = false := by
  have hletters : ∀ n : Fin 123, (Char.ofNat n.val).isAlpha = true →
      isSpecial (Char.ofNat n.val) = false := by decide
  have hlt : c.toNat < 123 := by
    simp only [Char.isAlpha, Char.isUpper, Char.isLower, Bool.or_eq_true, Bool.and_eq_true,
      decide_eq_true_eq] at h
    rcases h with ⟨-, hupper⟩ | ⟨-, hlower⟩
    · exact Nat.lt_of_le_of_lt hupper (by decide)
    · exact Nat.lt_of_le_of_lt hlower (by decide)
  have hc := hletters ⟨c.toNat, hlt⟩
  rw [Char.ofNat_toNat] at hc
  exact hc h

/-- A character that needs a backslash is none of those that need none. -/
theorem ne_of_isSpecial {c d : Char} (hc : isSpecial c = true) (hd : isSpecial d = false) :
    c ≠ d := by
  rintro rfl
  rw [hc] at hd
  contradiction

theorem isAlpha_of_isSpecial {c : Char} (h : isSpecial c = true) : c.isAlpha = false :=
  Bool.eq_false_iff.mpr fun hc => ne_of_isSpecial h (isSpecial_of_isAlpha hc) rfl

theorem isDigit_of_isSpecial {c : Char} (h : isSpecial c = true) : c.isDigit = false :=
  Bool.eq_false_iff.mpr fun hc => ne_of_isSpecial h (isSpecial_of_isDigit hc) rfl

/-- A backslash needs one. -/
theorem isSpecial_backslash : isSpecial '\\' = true := by decide

/-- A text is plain just if none of its characters needs a backslash. -/
theorem isPlain_iff {s : List Char} : isPlain s = true ↔ ∀ c ∈ s, isSpecial c = false := by
  simp [isPlain]

/-- Literal pieces are complete by themselves. -/
theorem Piece.isClosed_of_isLiteral {p : Piece} (h : p.isLiteral = true) : p.isClosed = true := by
  cases p with
  | plain c =>
    have hplain : isSpecial c = false := by simpa [isLiteral] using h
    simp [isClosed, (ne_of_isSpecial isSpecial_backslash hplain).symm]
  | escaped c => simp [isClosed, isDigit_of_isSpecial h]
  | reference digits => simp [isLiteral] at h
  | dangling => simp [isLiteral] at h

theorem isLiteral_of_mem_literalPieces {text : List Char} {p : Piece}
    (h : p ∈ literalPieces text) : p.isLiteral = true := by
  obtain ⟨c, -, rfl⟩ := List.mem_map.mp h
  by_cases hc : isSpecial c = true <;> simp [hc, Piece.isLiteral]

/-- Escaping a text spells its literal pieces. -/
theorem spell_literalPieces (text : List Char) : spell (literalPieces text) = escape text := by
  induction text with
  | nil => rfl
  | cons c text ih =>
    by_cases hc : isSpecial c = true <;>
      simp_all [literalPieces, escape, escapeChar, Piece.text]

/-- A text that is made to match itself is read as its literal pieces, and what follows it as if it
stood alone. -/
theorem pieces_escape_append (text s : List Char) :
    pieces (escape text ++ s) = literalPieces text ++ pieces s := by
  rw [← spell_literalPieces]
  exact pieces_spell_append
    (fun p hp => Piece.isClosed_of_isLiteral (isLiteral_of_mem_literalPieces hp)) s

/-! ## The splice -/

section

variable (line : List Char) (captures : Captures)

@[simp] theorem resolve_nil : resolve line captures [] = .ok [] := rfl

@[simp] theorem resolve_dangling : resolve line captures ['\\'] = .ok ['\\'] := rfl

theorem resolve_plain {c : Char} (hc : c ≠ '\\') (s : List Char) :
    resolve line captures (c :: s) = (resolve line captures s).map (c :: ·) := by
  simp [resolve, resolveFrom, hc]

theorem resolve_escaped {c : Char} (hc : c.isDigit = false) (s : List Char) :
    resolve line captures ('\\' :: c :: s) = (resolve line captures s).map ('\\' :: c :: ·) := by
  simp [resolve, resolveFrom, hc]

/-- A reference that is being read is replaced at the end of its run of digits. -/
theorem resolveFrom_digits (reversed : List Char) {digits s : List Char}
    (hdigits : ∀ d ∈ digits, d.isDigit = true) (hs : startsWithDigit s = false) :
    resolveFrom line captures (.digits reversed) (digits ++ s) = do
      let text ← captured line captures (reversed.reverse ++ digits)
      let rest ← resolve line captures s
      return text ++ rest := by
  induction digits generalizing reversed with
  | nil =>
    cases s with
    | nil =>
      simp only [List.append_nil, resolveFrom, resolve_nil]
      cases captured line captures reversed.reverse <;> simp [bind, Except.bind, pure, Except.pure]
    | cons c s =>
      have hc : c.isDigit = false := by simpa [startsWithDigit] using hs
      simp only [List.append_nil, List.nil_append, resolveFrom, resolve, hc, Bool.false_eq_true,
        if_false]
      by_cases hbackslash : c = '\\'
      · simp only [if_pos hbackslash]
      · simp only [if_neg hbackslash]
  | cons d digits ih =>
    obtain ⟨hd, hrest⟩ := List.forall_mem_cons.mp hdigits
    simp [resolveFrom, hd, ih _ hrest]

theorem resolve_reference {d : Char} {digits s : List Char} (hd : d.isDigit = true)
    (hdigits : ∀ d ∈ digits, d.isDigit = true) (hs : startsWithDigit s = false) :
    resolve line captures ('\\' :: d :: (digits ++ s)) = do
      let text ← captured line captures (d :: digits)
      let rest ← resolve line captures s
      return text ++ rest := by
  have hrun := resolveFrom_digits line captures [d] hdigits hs
  simpa [resolve, resolveFrom, hd] using hrun

/-- The pieces that stand in the place of a piece. -/
def Piece.replaced : Piece → Except ReferenceError (List Piece)
  | .reference digits => (captured line captures digits).map pieces
  | p => .ok [p]

/-- The text that a reference stands for is escaped. -/
theorem exists_eq_escape_of_captured {line : List Char} {captures : Captures}
    {digits text : List Char} (h : captured line captures digits = .ok text) :
    ∃ literal, text = escape literal := by
  simp only [captured] at h
  split at h
  · simp at h
  · split at h
    · exact ⟨[], (Except.ok.inj h).symm⟩
    · split at h
      · exact ⟨_, (Except.ok.inj h).symm⟩
      · simp at h

/-- Replacing references replaces the pieces of a pattern one by one. -/
theorem map_pieces_resolve (s : List Char) :
    (resolve line captures s).map pieces =
      ((pieces s).mapM (Piece.replaced line captures)).map List.flatten := by
  induction s using pieceInduction with
  | nil => rfl
  | dangling => rfl
  | plain c s hc ih =>
    rw [resolve_plain line captures hc, pieces_plain hc, List.mapM_cons]
    cases hs : resolve line captures s <;>
      cases hp : (pieces s).mapM (Piece.replaced line captures) <;>
      simp_all [Except.map, Piece.replaced, bind, Except.bind, pure, Except.pure, pieces_plain hc]
  | escaped c s hc ih =>
    rw [resolve_escaped line captures hc, pieces_escaped hc, List.mapM_cons]
    cases hs : resolve line captures s <;>
      cases hp : (pieces s).mapM (Piece.replaced line captures) <;>
      simp_all [Except.map, Piece.replaced, bind, Except.bind, pure, Except.pure, pieces_escaped hc]
  | reference d digits s hd hdigits hs ih =>
    rw [resolve_reference line captures hd hdigits hs, pieces_reference hd hdigits hs,
      List.mapM_cons]
    cases hcaptured : captured line captures (d :: digits) with
    | error fault => simp [Piece.replaced, hcaptured, Except.map, bind, Except.bind]
    | ok text =>
      obtain ⟨literal, rfl⟩ := exists_eq_escape_of_captured hcaptured
      have hliteral : pieces (escape literal) = literalPieces literal := by
        simpa using pieces_escape_append literal []
      cases hs : resolve line captures s <;>
        cases hp : (pieces s).mapM (Piece.replaced line captures) <;>
        simp_all [Except.map, Piece.replaced, bind, Except.bind, pure, Except.pure,
          pieces_escape_append]

end

/-- The pieces that stand in the place of a piece if references give way to given pieces. -/
def Piece.substitute (replacement : List Char → List Piece) : Piece → List Piece
  | .reference digits => replacement digits
  | p => [p]

/-- The literal pieces that a reference gives way to, if it can be replaced. -/
def replacement (line : List Char) (captures : Captures) (digits : List Char) : List Piece :=
  match captured line captures digits with
  | .ok text => pieces text
  | .error _ => []

theorem isLiteral_of_mem_replacement {line : List Char} {captures : Captures} {digits : List Char}
    {p : Piece} (h : p ∈ replacement line captures digits) : p.isLiteral = true := by
  unfold replacement at h
  split at h
  · next text htext =>
    obtain ⟨literal, rfl⟩ := exists_eq_escape_of_captured htext
    rw [← List.append_nil (escape literal), pieces_escape_append, pieces_nil, List.append_nil] at h
    exact isLiteral_of_mem_literalPieces h
  · simp at h

/-- If all references of some pieces can be replaced, the replacements are made one by one. -/
theorem eq_map_substitute_of_mapM {line : List Char} {captures : Captures} {ps : List Piece}
    {blocks : List (List Piece)} (h : ps.mapM (Piece.replaced line captures) = .ok blocks) :
    blocks = ps.map (Piece.substitute (replacement line captures)) := by
  induction ps generalizing blocks with
  | nil =>
    simp only [List.mapM_nil, pure, Except.pure, Except.ok.injEq] at h
    exact h.symm
  | cons p ps ih =>
    rw [List.mapM_cons] at h
    cases hp : p.replaced line captures with
    | error fault => simp [hp, bind, Except.bind] at h
    | ok block =>
      cases hps : ps.mapM (Piece.replaced line captures) with
      | error fault => simp [hp, hps, bind, Except.bind] at h
      | ok rest =>
        simp only [hp, hps, bind, Except.bind, pure, Except.pure, Except.ok.injEq] at h
        subst h
        rw [List.map_cons, ← ih hps]
        congr 1
        cases p with
        | reference digits =>
          cases hcaptured : captured line captures digits with
          | error fault => simp [Piece.replaced, hcaptured, Except.map] at hp
          | ok text =>
            simp only [Piece.replaced, hcaptured, Except.map, Except.ok.injEq] at hp
            simp [Piece.substitute, replacement, hcaptured, hp]
        | plain c | escaped c | dangling =>
          simp only [Piece.replaced, Except.ok.injEq] at hp
          exact hp.symm

/-- The pieces of a pattern whose references were replaced. -/
theorem pieces_of_resolve_eq_ok {line : List Char} {captures : Captures} {s out : List Char}
    (h : resolve line captures s = .ok out) :
    pieces out = (pieces s).flatMap (Piece.substitute (replacement line captures)) := by
  have hpieces := map_pieces_resolve line captures s
  rw [h] at hpieces
  cases hblocks : (pieces s).mapM (Piece.replaced line captures) with
  | error fault => simp [hblocks, Except.map] at hpieces
  | ok blocks =>
    simp only [hblocks, Except.map, Except.ok.injEq] at hpieces
    rw [hpieces, eq_map_substitute_of_mapM hblocks, List.flatMap_def]

/-- A pattern without references is left as it is. -/
theorem resolve_eq_self {s : List Char} (h : hasReferences s = false) (line : List Char)
    (captures : Captures) : resolve line captures s = .ok s := by
  induction s using pieceInduction with
  | nil => rfl
  | dangling => rfl
  | plain c s hc ih =>
    rw [hasReferences_plain hc] at h
    simp [resolve_plain line captures hc, ih h, Except.map]
  | escaped c s hc ih =>
    simp only [hasReferences, hc, Bool.false_or] at h
    simp [resolve_escaped line captures hc, ih h, Except.map]
  | reference d digits s hd hdigits hs ih => simp [hasReferences, hd] at h

/-- No literal piece is a reference. -/
theorem Piece.isReference_of_isLiteral {p : Piece} (h : p.isLiteral = true) :
    p.isReference = false := by
  cases p <;> simp_all [isLiteral, isReference]

/-- The replaced pattern has no references left. -/
theorem hasReferences_of_resolve_eq_ok {line : List Char} {captures : Captures} {s out : List Char}
    (h : resolve line captures s = .ok out) : hasReferences out = false := by
  rw [hasReferences_eq_any_pieces, pieces_of_resolve_eq_ok h, List.any_flatMap,
    List.any_eq_false]
  intro p hp
  rw [Bool.not_eq_true, List.any_eq_false]
  intro q hq
  cases p with
  | reference digits =>
    simpa using Piece.isReference_of_isLiteral (isLiteral_of_mem_replacement hq)
  | plain c | escaped c | dangling =>
    obtain rfl := List.mem_singleton.mp hq
    simp [Piece.isReference]

/-- Whether a piece is one of the anchors `\A`, `\G` and `\z`. -/
def Piece.isAnchor : Piece → Bool := Piece.escapes fun c => c = 'A' || c = 'G' || c = 'z'

/-- No literal piece is an anchor, as letters need no backslash. -/
theorem Piece.isAnchor_of_isLiteral {p : Piece} (h : p.isLiteral = true) :
    p.isAnchor = false := by
  cases p with
  | escaped c =>
    have hletters : isSpecial 'A' = false ∧ isSpecial 'G' = false ∧ isSpecial 'z' = false := by
      decide
    simp only [isLiteral] at h
    simp only [isAnchor, escapes, Bool.or_eq_false_iff, decide_eq_false_iff_not]
    refine ⟨⟨?_, ?_⟩, ?_⟩ <;>
      · rintro rfl
        simp [hletters] at h
  | plain c => rfl
  | reference digits => rfl
  | dangling => rfl

/-- Replacing references leaves the anchors of the pieces as they are. -/
theorem filter_isAnchor_substitute (line : List Char) (captures : Captures) (ps : List Piece) :
    (ps.flatMap (Piece.substitute (replacement line captures))).filter Piece.isAnchor =
      ps.filter Piece.isAnchor := by
  induction ps with
  | nil => rfl
  | cons p ps ih =>
    rw [List.flatMap_cons, List.filter_append, ih]
    cases p with
    | reference digits =>
      rw [Piece.substitute, List.filter_eq_nil_iff.mpr, List.nil_append,
        List.filter_cons_of_neg (by simp [Piece.isAnchor, Piece.escapes])]
      intro q hq
      simpa using Piece.isAnchor_of_isLiteral (isLiteral_of_mem_replacement hq)
    | plain c | escaped c | dangling =>
      rw [Piece.substitute, ← List.filter_append, List.singleton_append]
      intro digits h
      simp at h

/-- Replacing the references of a pattern puts literal pieces in the place of each of them and
leaves all other pieces as they are. No reference is left, so that a second replacement changes
nothing, and no anchor is won or lost. -/
theorem resolve_hygienic {line : List Char} {captures : Captures} {s out : List Char}
    (h : resolve line captures s = .ok out) :
    (∃ literals : List Char → List Piece, (∀ digits, ∀ p ∈ literals digits, p.isLiteral = true) ∧
        pieces out = (pieces s).flatMap (Piece.substitute literals)) ∧
      hasReferences out = false ∧
      (∀ line' captures', resolve line' captures' out = .ok out) ∧
      (pieces out).filter Piece.isAnchor = (pieces s).filter Piece.isAnchor := by
  refine ⟨⟨replacement line captures, fun _ _ => isLiteral_of_mem_replacement,
    pieces_of_resolve_eq_ok h⟩, hasReferences_of_resolve_eq_ok h, ?_, ?_⟩
  · exact fun line' captures' =>
      resolve_eq_self (hasReferences_of_resolve_eq_ok h) line' captures'
  · rw [pieces_of_resolve_eq_ok h, filter_isAnchor_substitute]

/-- A captured backslash in front of an anchor letter, next to an anchor of the pattern. -/
theorem resolve_hygienic_backslash :
    resolve ['\\'] ⟨[some ⟨0, 1⟩]⟩ "\\A\\0A\\".toList = .ok "\\A\\\\A\\".toList ∧
      hasReferences "\\A\\\\A\\".toList = false ∧
      (∀ line captures,
        resolve line captures "\\A\\\\A\\".toList = .ok "\\A\\\\A\\".toList) ∧
      (pieces "\\A\\\\A\\".toList).filter Piece.isAnchor = [.escaped 'A'] := by
  have h : resolve ['\\'] ⟨[some ⟨0, 1⟩]⟩ "\\A\\0A\\".toList =
    .ok "\\A\\\\A\\".toList := by cbv
  obtain ⟨-, hnone, hagain, hanchors⟩ := resolve_hygienic h
  refine ⟨h, hnone, hagain, ?_⟩
  rw [hanchors]
  cbv

end GrammarScan.Pattern
