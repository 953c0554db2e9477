import GrammarScan.Pattern.Anchor
import GrammarScan.Pattern.Piece
import GrammarScan.Pattern.Reference

/-!
# Patterns by their pieces

All that is done to a pattern before it is compiled goes from left to right and takes a backslash
together with what it escapes, but each reader is written in its own way. Here every one of them is
tied to the pieces of the pattern: the tests ask for a piece of some kind, and the rewrites put
other text in the place of single pieces. A pattern is determined by its pieces, so that rewrites
can be compared piece by piece.
-/

namespace GrammarScan.Pattern

/-- Whether a text begins with a digit, which a reference in front of it would take in. -/
def startsWithDigit (s : List Char) : Bool := s.head?.any Char.isDigit

/-- A digit is no backslash. -/
theorem ne_backslash_of_isDigit {c : Char} (h : c.isDigit = true) : c ≠ '\\' := by
  rintro rfl
  simp at h

/-- A text is a run of digits and a rest that does not begin with one. -/
theorem exists_digits (s : List Char) : ∃ digits rest : List Char, s = digits ++ rest ∧
    (∀ d ∈ digits, d.isDigit = true) ∧ startsWithDigit rest = false := by
  induction s with
  | nil => exact ⟨[], [], rfl, by simp, rfl⟩
  | cons c s ih =>
    by_cases hc : c.isDigit = true
    · obtain ⟨digits, rest, rfl, hdigits, hrest⟩ := ih
      exact ⟨c :: digits, rest, rfl, List.forall_mem_cons.mpr ⟨hc, hdigits⟩, hrest⟩
    · exact ⟨[], c :: s, rfl, by simp, by simpa [startsWithDigit] using hc⟩

/-- Patterns are built from the back by putting one piece in front. -/
theorem pieceInduction {motive : List Char → Prop} (nil : motive []) (dangling : motive ['\\'])
    (plain : ∀ c s, c ≠ '\\' → motive s → motive (c :: s))
    (escaped : ∀ c s, c.isDigit = false → motive s → motive ('\\' :: c :: s))
    (reference : ∀ d digits s, d.isDigit = true → (∀ d ∈ digits, d.isDigit = true) →
      startsWithDigit s = false → motive s → motive ('\\' :: d :: (digits ++ s)))
    (s : List Char) : motive s := by
  induction hlength : s.length using Nat.strongRecOn generalizing s with
  | ind n ih =>
    subst hlength
    match s with
    | [] => exact nil
    | c :: s =>
      by_cases hc : c = '\\'
      · subst hc
        match s with
        | [] => exact dangling
        | d :: s =>
          by_cases hd : d.isDigit = true
          · obtain ⟨digits, rest, rfl, hdigits, hrest⟩ := exists_digits s
            exact reference d digits rest hd hdigits hrest
              (ih _ (by simp only [List.length_cons, List.length_append]; omega) rest rfl)
          · exact escaped d s (by simpa using hd)
              (ih _ (by simp only [List.length_cons]; omega) s rfl)
      · exact plain c s hc (ih _ (by simp) s rfl)

/-! ## Reading pieces -/

@[simp] theorem pieces_nil : pieces [] = [] := rfl

@[simp] theorem pieces_dangling : pieces ['\\'] = [.dangling] := rfl

theorem pieces_plain {c : Char} (hc : c ≠ '\\') (s : List Char) :
    pieces (c :: s) = .plain c :: pieces s := by
  simp [pieces, piecesFrom, Reading.next, Reading.fresh, hc]

theorem pieces_escaped {c : Char} (hc : c.isDigit = false) (s : List Char) :
    pieces ('\\' :: c :: s) = .escaped c :: pieces s := by
  simp [pieces, piecesFrom, Reading.next, Reading.fresh, hc]

/-- A reference that is being read ends with its run of digits. -/
theorem piecesFrom_inDigits (reversed : List Char) {digits s : List Char}
    (hdigits : ∀ d ∈ digits, d.isDigit = true) (hs : startsWithDigit s = false) :
    piecesFrom (.inDigits reversed) (digits ++ s) =
      .reference (reversed.reverse ++ digits) :: pieces s := by
  induction digits generalizing reversed with
  | nil =>
    cases s with
    | nil => simp [piecesFrom, Reading.close]
    | cons c s =>
      have hc : c.isDigit = false := by simpa [startsWithDigit] using hs
      simp [pieces, piecesFrom, Reading.next, hc]
  | cons d digits ih =>
    obtain ⟨hd, hdigits⟩ := List.forall_mem_cons.mp hdigits
    simp [piecesFrom, Reading.next, hd, ih _ hdigits]

theorem pieces_reference {d : Char} {digits s : List Char} (hd : d.isDigit = true)
    (hdigits : ∀ d ∈ digits, d.isDigit = true) (hs : startsWithDigit s = false) :
    pieces ('\\' :: d :: (digits ++ s)) = .reference (d :: digits) :: pieces s := by
  have hrun := piecesFrom_inDigits [d] hdigits hs
  simpa [pieces, piecesFrom, Reading.next, Reading.fresh, hd] using hrun

@[simp] theorem spell_nil : spell [] = [] := rfl

@[simp] theorem spell_cons (p : Piece) (ps : List Piece) :
    spell (p :: ps) = p.text ++ spell ps := rfl

/-- The pieces of a pattern spell it. -/
@[simp] theorem spell_pieces (s : List Char) : spell (pieces s) = s := by
  induction s using pieceInduction with
  | nil => rfl
  | dangling => rfl
  | plain c s hc ih => simp [pieces_plain hc, ih, Piece.text]
  | escaped c s hc ih => simp [pieces_escaped hc, ih, Piece.text]
  | reference d digits s hd hdigits hs ih => simp [pieces_reference hd hdigits hs, ih, Piece.text]

/-- A pattern is determined by its pieces. -/
theorem pieces_injective : Function.Injective pieces := fun s t h => by
  rw [← spell_pieces s, h, spell_pieces]

/-- Whether a piece is complete without regard to what follows it. -/
def Piece.isClosed : Piece → Bool
  | .plain c => c ≠ '\\'
  | .escaped c => !c.isDigit
  | .reference _ | .dangling => false

/-- What stands behind closed pieces is read as if it stood alone. -/
theorem pieces_spell_append {ps : List Piece} (hps : ∀ p ∈ ps, p.isClosed = true) (s : List Char) :
    pieces (spell ps ++ s) = ps ++ pieces s := by
  induction ps with
  | nil => rfl
  | cons p ps ih =>
    obtain ⟨hp, hrest⟩ := List.forall_mem_cons.mp hps
    cases p with
    | plain c =>
      have hc : c ≠ '\\' := by simpa [Piece.isClosed] using hp
      simp [Piece.text, pieces_plain hc, ih hrest]
    | escaped c =>
      have hc : c.isDigit = false := by simpa [Piece.isClosed] using hp
      simp [Piece.text, pieces_escaped hc, ih hrest]
    | reference digits => simp [Piece.isClosed] at hp
    | dangling => simp [Piece.isClosed] at hp

/-! ## Tests -/

/-- Whether a piece is an escape of a character of the given kind. -/
def Piece.escapes (kind : Char → Bool) : Piece → Bool
  | .escaped c => kind c
  | _ => false

/-- One of some pieces is an escape of some kind just if such an escape is among them. -/
theorem any_escapes_iff {kind : Char → Bool} {ps : List Piece} :
    ps.any (Piece.escapes kind) = true ↔ ∃ c, kind c = true ∧ .escaped c ∈ ps := by
  rw [List.any_eq_true]
  constructor
  · rintro ⟨p, hp, hescapes⟩
    cases p with
    | escaped c => exact ⟨c, hescapes, hp⟩
    | plain c | reference digits | dangling => simp [Piece.escapes] at hescapes
  · rintro ⟨c, hc, hmem⟩
    exact ⟨_, hmem, hc⟩

/-- Whether a piece is a reference. -/
def Piece.isReference : Piece → Bool
  | .reference _ => true
  | _ => false

theorem hasEscape_plain {kind : Char → Bool} {c : Char} (hc : c ≠ '\\') (s : List Char) :
    hasEscape kind (c :: s) = hasEscape kind s := by
  rw [hasEscape]
  intro _ _ h
  exact absurd h hc

/-- Digits escape nothing. -/
theorem hasEscape_digits {kind : Char → Bool} {digits : List Char}
    (hdigits : ∀ d ∈ digits, d.isDigit = true) (s : List Char) :
    hasEscape kind (digits ++ s) = hasEscape kind s := by
  induction digits with
  | nil => rfl
  | cons d digits ih =>
    obtain ⟨hd, hdigits⟩ := List.forall_mem_cons.mp hdigits
    rw [List.cons_append, hasEscape_plain (ne_backslash_of_isDigit hd), ih hdigits]

/-- A pattern has an escape of some kind of character if one of its pieces is one. Digits behind a
backslash make a reference, so they are not of the kind. -/
theorem hasEscape_eq_any_pieces {kind : Char → Bool}
    (hkind : ∀ d, d.isDigit = true → kind d = false) (s : List Char) :
    hasEscape kind s = (pieces s).any (Piece.escapes kind) := by
  induction s using pieceInduction with
  | nil => rfl
  | dangling => rfl
  | plain c s hc ih => simp [hasEscape_plain hc, pieces_plain hc, Piece.escapes, ih]
  | escaped c s hc ih => simp [hasEscape, pieces_escaped hc, Piece.escapes, ih]
  | reference d digits s hd hdigits hs ih =>
    simp [hasEscape, pieces_reference hd hdigits hs, Piece.escapes, hkind d hd,
      hasEscape_digits hdigits, ih]

theorem hasReferences_plain {c : Char} (hc : c ≠ '\\') (s : List Char) :
    hasReferences (c :: s) = hasReferences s := by
  rw [hasReferences]
  intro _ _ h
  exact absurd h hc

/-- A pattern has references if one of its pieces is one. -/
theorem hasReferences_eq_any_pieces (s : List Char) :
    hasReferences s = (pieces s).any Piece.isReference := by
  induction s using pieceInduction with
  | nil => rfl
  | dangling => rfl
  | plain c s hc ih => simp [hasReferences_plain hc, pieces_plain hc, Piece.isReference, ih]
  | escaped c s hc ih => simp [hasReferences, pieces_escaped hc, Piece.isReference, hc, ih]
  | reference d digits s hd hdigits hs ih =>
    simp [hasReferences, pieces_reference hd hdigits hs, Piece.isReference, hd]

end GrammarScan.Pattern
