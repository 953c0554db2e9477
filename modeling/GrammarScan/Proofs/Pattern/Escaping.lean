import GrammarScan.Pattern.Escaped
import GrammarScan.Proofs.Pattern.Pairs

/-!
# Escaping and reading back

Escaping a text puts a backslash before each special character, the backslash among them. So read by
its pairs, an escaped text has one piece for each character, which is that character with a
backslash or without one, and the text can be read back from them. None of the pieces is left open:
whatever is put behind an escaped text is read as if it stood alone, by the reader of anchors and by
the one that replaces references as well.

Special characters may be looked for and cut out by their offsets. That comes to the same text, and
it is put together anew just if there are any.
-/

namespace GrammarScan.Pattern

theorem escape_append (s t : List Char) : escape (s ++ t) = escape s ++ escape t :=
  List.flatMap_append

theorem escape_special {c : Char} (hc : isSpecial c = true) (s : List Char) :
    escape (c :: s) = '\\' :: c :: escape s := by
  simp [escape, escapeChar, hc]

theorem escape_plain {c : Char} (hc : isSpecial c = false) (s : List Char) :
    escape (c :: s) = c :: escape s := by
  simp [escape, escapeChar, hc]

/-- Every special character costs one character more. -/
theorem length_escape (s : List Char) : (escape s).length = s.length + s.countP isSpecial := by
  induction s with
  | nil => rfl
  | cons c s ih =>
    cases hc : isSpecial c with
    | true =>
      rw [escape_special hc, List.countP_cons_of_pos hc]
      simp only [List.length_cons, ih]
      omega
    | false =>
      rw [escape_plain hc, List.countP_cons_of_neg (by simp [hc])]
      simp only [List.length_cons, ih]
      omega

/-- Escaping changes nothing just if no character needs a backslash. -/
theorem escape_eq_self_iff {s : List Char} : escape s = s ↔ isPlain s = true := by
  rw [isPlain_iff]
  constructor
  · intro h
    have hlength := length_escape s
    rw [h, Nat.left_eq_add, List.countP_eq_zero] at hlength
    exact fun c hc => by simpa using hlength c hc
  · intro h
    have hchar : ∀ c ∈ s, escapeChar c = [c] := fun c hc => by simp [escapeChar, h c hc]
    exact (List.flatMap_congr hchar).trans (List.flatMap_singleton' s)

/-! ## Reading back -/

/-- What a piece stands for if the backslash of a pair is dropped. -/
def Piece.bare : Piece → List Char
  | .plain c | .escaped c => [c]
  | .reference digits => '\\' :: digits
  | .dangling => ['\\']

/-- The character that is paired with a backslash. -/
def Piece.paired? : Piece → Option Char
  | .escaped c => some c
  | _ => none

/-- The text without the backslashes of its pairs. -/
def unescape (s : List Char) : List Char := (pairs s).flatMap Piece.bare

theorem literalPieces_cons (c : Char) (text : List Char) : literalPieces (c :: text) =
    (if isSpecial c then .escaped c else .plain c) :: literalPieces text := rfl

/-- By its pairs an escaped text is read as its literal pieces, and what follows it as if it stood
alone. -/
theorem pairs_escape_append (text s : List Char) :
    pairs (escape text ++ s) = literalPieces text ++ pairs s := by
  induction text with
  | nil => rfl
  | cons c text ih =>
    cases hc : isSpecial c with
    | true =>
      rw [escape_special hc, List.cons_append, List.cons_append, pairs_escaped, ih,
        literalPieces_cons, if_pos hc, List.cons_append]
    | false =>
      have hne : c ≠ '\\' := (ne_of_isSpecial isSpecial_backslash hc).symm
      rw [escape_plain hc, List.cons_append, pairs_plain hne, ih, literalPieces_cons, hc,
        if_neg Bool.false_ne_true, List.cons_append]

theorem pairs_escape (text : List Char) : pairs (escape text) = literalPieces text := by
  simpa using pairs_escape_append text []

theorem pieces_escape (text : List Char) : pieces (escape text) = literalPieces text := by
  simpa using pieces_escape_append text []

/-- Literal pieces stand for the characters that they were made for. -/
theorem flatMap_bare_literalPieces (text : List Char) :
    (literalPieces text).flatMap Piece.bare = text := by
  induction text with
  | nil => rfl
  | cons c text ih =>
    rw [literalPieces_cons, List.flatMap_cons, ih]
    cases isSpecial c <;> rfl

/-- Escaping is undone by dropping the backslashes of pairs. -/
theorem unescape_escape (text : List Char) : unescape (escape text) = text := by
  rw [unescape, pairs_escape, flatMap_bare_literalPieces]

theorem escape_injective : Function.Injective escape :=
  Function.LeftInverse.injective unescape_escape

/-- The literal pieces with a backslash are those of the special characters. -/
theorem filterMap_paired?_literalPieces (text : List Char) :
    (literalPieces text).filterMap Piece.paired? = text.filter isSpecial := by
  induction text with
  | nil => rfl
  | cons c text ih =>
    rw [literalPieces_cons]
    cases hc : isSpecial c with
    | true => simp [Piece.paired?, ih, hc]
    | false => simp [List.filterMap_cons, Piece.paired?, ih, hc]

/-! ## What follows an escaped text -/

/-- A text behind which everything is read as if it stood alone: by pairs and by pieces, by the
reader of anchors, and by the one that replaces references. -/
structure LeavesNothingOpen (front : List Char) : Prop where
  pairs_append : ∀ s, pairs (front ++ s) = pairs front ++ pairs s
  pieces_append : ∀ s, pieces (front ++ s) = pieces front ++ pieces s
  scan_append : ∀ s, scan (front ++ s) =
    (scan s).map fun scanned => { scanned with source := front ++ scanned.source }
  resolve_append : ∀ line captures s,
    resolve line captures (front ++ s) = (resolve line captures s).map (front ++ ·)

/-- Literal text has no escape of a kind of which no special character is. -/
theorem hasEscape_escape_append {kind : Char → Bool}
    (hkind : ∀ c, isSpecial c = true → kind c = false) (text s : List Char) :
    hasEscape kind (escape text ++ s) = hasEscape kind s := by
  rw [hasEscape_eq_any_pairs, hasEscape_eq_any_pairs, pairs_escape_append, List.any_append]
  have hnone : (literalPieces text).any (Piece.escapes kind) = false := by
    rw [List.any_eq_false]
    intro p hp
    have hliteral := isLiteral_of_mem_literalPieces hp
    cases p with
    | escaped c => simp [Piece.escapes, hkind c hliteral]
    | plain c | reference digits | dangling => simp [Piece.escapes]
  rw [hnone, Bool.false_or]

/-- Going through a pattern passes over literal text. -/
theorem scan_escape_append (text s : List Char) : scan (escape text ++ s) =
    (scan s).map fun scanned => { scanned with source := escape text ++ scanned.source } := by
  have hend : hasEnd (escape text ++ s) = hasEnd s :=
    hasEscape_escape_append
      (fun c hc => decide_eq_false (ne_of_isSpecial hc (isSpecial_of_isAlpha rfl))) text s
  have hanchor : hasAnchor (escape text ++ s) = hasAnchor s :=
    hasEscape_escape_append (fun c hc => by
      simp [ne_of_isSpecial hc (isSpecial_of_isAlpha (c := 'A') rfl),
        ne_of_isSpecial hc (isSpecial_of_isAlpha (c := 'G') rfl)]) text s
  rw [scan_eq, scan_eq, hend, hanchor, expandEnds_escape_append, Option.map_some]

/-- Replacing references passes over literal text. -/
theorem resolve_escape_append (line : List Char) (captures : Captures) (text s : List Char) :
    resolve line captures (escape text ++ s) =
      (resolve line captures s).map (escape text ++ ·) := by
  induction text with
  | nil => cases h : resolve line captures s <;> simp [escape, h, Except.map]
  | cons c text ih =>
    cases hc : isSpecial c with
    | true =>
      rw [escape_special hc, List.cons_append, List.cons_append,
        resolve_escaped line captures (isDigit_of_isSpecial hc), ih]
      cases resolve line captures s <;> rfl
    | false =>
      have hne : c ≠ '\\' := (ne_of_isSpecial isSpecial_backslash hc).symm
      rw [escape_plain hc, List.cons_append, resolve_plain line captures hne, ih]
      cases resolve line captures s <;> rfl

theorem leavesNothingOpen_escape (text : List Char) : LeavesNothingOpen (escape text) where
  pairs_append s := by rw [pairs_escape_append, pairs_escape]
  pieces_append s := by rw [pieces_escape_append, pieces_escape]
  scan_append s := scan_escape_append text s
  resolve_append line captures s := resolve_escape_append line captures text s

/-! ## Escaping by offsets -/

/-- A text that was escaped up to some place comes to what escaping makes of the rest. What is
`pending` has been passed since then and is still to be cut out. -/
theorem escapeFrom_eq {source : List Char} (done pending s : List Char)
    (hsource : source = done ++ pending ++ s) :
    escapeFrom source (byteLength done) (findSpecials (byteLength (done ++ pending)) s) =
      some (pending ++ escape s) := by
  induction s generalizing done pending with
  | nil =>
    have hslice : slice? source ⟨byteLength done, byteLength (done ++ pending)⟩ = some pending :=
      hsource ▸ slice?_middle done pending []
    have hend : byteLength source = byteLength (done ++ pending) := by
      rw [hsource, List.append_nil]
    rw [findSpecials, escapeFrom, hend, hslice]
    simp [escape]
  | cons c s ih =>
    have hnext : byteLength (done ++ pending) + c.utf8Size =
        byteLength (done ++ (pending ++ [c])) := byteLength_pending done pending [c]
    rw [findSpecials, hnext]
    cases hc : isSpecial c with
    | true =>
      have hbetween :
          slice? source ⟨byteLength done, byteLength (done ++ pending)⟩ = some pending :=
        hsource ▸ slice?_middle done pending _
      have hspecial : slice? source
          ⟨byteLength (done ++ pending), byteLength (done ++ (pending ++ [c]))⟩ = some [c] := by
        have hslice := slice?_middle (done ++ pending) [c] s
        rwa [List.append_assoc, List.singleton_append, ← hsource, List.append_assoc] at hslice
      -- Behind the special character nothing is pending.
      have hrest := ih (done ++ (pending ++ [c])) [] (by simp [hsource])
      rw [List.append_nil, List.nil_append] at hrest
      rw [if_pos rfl, escapeFrom]
      simp only [hbetween, hspecial, hrest, escape_special hc, Option.bind_eq_bind,
        Option.bind_some]
      rfl
    | false =>
      rw [if_neg Bool.false_ne_true, ih done (pending ++ [c]) (by simp [hsource]), escape_plain hc]
      simp

/-- No special character is found just in a plain text. -/
theorem findSpecials_eq_nil_iff {offset : Nat} {s : List Char} :
    findSpecials offset s = [] ↔ isPlain s = true := by
  induction s generalizing offset with
  | nil => exact iff_of_true rfl rfl
  | cons c s ih =>
    rw [isPlain_iff] at ih ⊢
    cases hc : isSpecial c with
    | true => simp [findSpecials, hc]
    | false => simp [findSpecials, hc, ih]

/-- Escaping by offsets asks for slices only, and comes to the escaped text. -/
theorem escapeOnce_eq (s : List Char) : escapeOnce s = some ⟨escape s, !isPlain s⟩ := by
  unfold escapeOnce
  split
  · next hnone =>
    have hplain := findSpecials_eq_nil_iff.mp hnone
    rw [escape_eq_self_iff.mpr hplain, hplain, Bool.not_true]
  · next range rest hranges =>
    have hplain : isPlain s = false := by
      rw [Bool.eq_false_iff]
      intro hplain
      rw [findSpecials_eq_nil_iff.mpr hplain] at hranges
      contradiction
    have hescape := escapeFrom_eq [] [] s rfl
    rw [← hranges, hplain]
    simpa [byteLength] using hescape

/-- Escaping carries joined texts over to joined texts. It is undone by dropping the backslashes of
pairs, so that no two texts are escaped alike, and the characters in those pairs are just the
special characters of the text in their order. By offsets it comes to the same text, which is put
together anew unless it is the text that was given, and it is that just if no character of it is
special. No backslash is left open at its end, and whatever is put behind it is read as if it stood
alone. -/
theorem escape_invertible (s : List Char) :
    (∀ t, escape (s ++ t) = escape s ++ escape t) ∧
      unescape (escape s) = s ∧
      (pairs (escape s)).filterMap Piece.paired? = s.filter isSpecial ∧
      (∀ t, escape s = escape t ↔ s = t) ∧
      (∃ escaped, escapeOnce s = some escaped ∧ escaped.text = escape s ∧
        (escape s = s ↔ escaped.isRewritten = false)) ∧
      (escape s = s ↔ ∀ c ∈ s, isSpecial c = false) ∧
      .dangling ∉ pairs (escape s) ∧
      LeavesNothingOpen (escape s) := by
  refine ⟨escape_append s, unescape_escape s, ?_, fun t => escape_injective.eq_iff,
    ⟨_, escapeOnce_eq s, rfl, ?_⟩, escape_eq_self_iff.trans isPlain_iff, fun hdangling => ?_,
    leavesNothingOpen_escape s⟩
  · rw [pairs_escape, filterMap_paired?_literalPieces]
  · rw [escape_eq_self_iff, Bool.not_eq_false']
  · rw [pairs_escape] at hdangling
    have hliteral := isLiteral_of_mem_literalPieces hdangling
    contradiction

/-- A run of two backslashes, a digit and a character of three bytes that is white space. -/
example : escape "\\\\1\u3000".toList = "\\\\\\\\1\\\u3000".toList ∧
    unescape "\\\\\\\\1\\\u3000".toList = "\\\\1\u3000".toList := by
  decide

end GrammarScan.Pattern
