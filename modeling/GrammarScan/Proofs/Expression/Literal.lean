import GrammarScan.Proofs.Expression.Steps
import GrammarScan.Proofs.Pattern.Substitution
import GrammarScan.Search.Options

/-!
# Reading known text

What follows a piece is no part of it unless a comment or a quantifier begins there. So a text that
is put together from known pieces is read piece by piece, with what follows left for the next one.

A text that was escaped is read as its characters, each of them in its own case. The flag for line
anchors in front of a pattern takes up no part of the tree. White space has to be no blank for this,
and case must not be ignored, as it is at the start of every pattern.
-/

namespace GrammarScan

open Pattern (isSpecial escapeChar)

namespace Pattern

/-- What needs a backslash has one case. -/
theorem toLower_of_isSpecial {c : Char} (h : isSpecial c = true) : c.toLower = c := by
  have hupper := isAlpha_of_isSpecial h
  simp only [Char.isAlpha, Bool.or_eq_false_iff] at hupper
  exact Char.toLower_eq_of_not_isUpper (by simp [hupper.1])

end Pattern

namespace Cursor

/-- The cursor in front of the given rest. -/
def before (s : Cursor) (rest : List Char) (position : Nat) : Cursor :=
  { s with rest := rest, position := position }

variable {s : Cursor} {rest : List Char} {p : Nat}

@[simp] theorem before_rest : (s.before rest p).rest = rest := rfl

@[simp] theorem before_position : (s.before rest p).position = p := rfl

@[simp] theorem before_flags : (s.before rest p).flags = s.flags := rfl

/-- Passing a known character. -/
theorem drop_before_cons (c : Char) :
    (s.before (c :: rest) p).drop 1 = s.before rest (p + c.utf8Size) := rfl

/-- The cursor with the flag for line anchors set. -/
def multiLine (s : Cursor) : Cursor := { s with flags := { s.flags with multiLine := true } }

/-- Blanks, case and references are as at the start of a pattern. -/
structure IsPlain (s : Cursor) : Prop where
  extended : s.flags.extended = false
  ignoreCase : s.flags.ignoreCase = false
  numbered : s.numbered = false

end Cursor

namespace Reader

section Steps

variable {α : Type} {s : Cursor}

@[simp] theorem run_pure (a : α) : (pure a : Reader α) s = .ok (a, s) := rfl

@[simp] theorem run_get_bind (f : Cursor → Reader α) : (get >>= f) s = f s s := rfl

@[simp] theorem run_position_bind (f : Nat → Reader α) : (position >>= f) s = f s.position s := rfl

@[simp] theorem run_flags_bind (f : Flags → Reader α) : (flags >>= f) s = f s.flags s := rfl

@[simp] theorem run_peek_bind (f : Option Char → Reader α) :
    (peek? >>= f) s = f s.rest.head? s := rfl

@[simp] theorem run_comesNext_bind (front : List Char) (f : Bool → Reader α) :
    (comesNext front >>= f) s = f (front.isPrefixOf s.rest) s := rfl

@[simp] theorem run_atEnd_bind (f : Bool → Reader α) : (atEnd >>= f) s = f s.rest.isEmpty s := rfl

@[simp] theorem run_skip_bind (count : Nat) (f : PUnit → Reader α) :
    (skip count >>= f) s = f ⟨⟩ (s.drop count) := rfl

/-- Reading on behind a reader that is known to give a value. -/
theorem run_bind {β : Type} {x : Reader α} {s' : Cursor} {a : α} (h : x s = .ok (a, s'))
    (f : α → Reader β) : (x >>= f) s = f a s' := by
  simp [bind, StateT.bind, h, Except.bind]

end Steps

variable {s : Cursor} {v : List Char} {c : Char} {p : Nat}

/-- The characters that have a meaning of their own behind a backslash, decimal digits apart. -/
def escapeLetters : List Char :=
  ['k', 'A', 'z', 'b', 'B', '<', '>', 'd', 's', 'w', 'h', 'H', 'x', 'u', 'U', 'p', 'K', 'G']

/-- The letters that escape are themselves no escapes. -/
theorem isPlain_escapeLetters : Pattern.isPlain escapeLetters = true := by decide

/-- A special character behind a backslash is no control character. -/
theorem controlEscape?_of_isSpecial (hc : isSpecial c = true) : controlEscape? c = none := by
  unfold controlEscape?
  split <;> first | rfl | exact absurd rfl (Pattern.ne_of_isSpecial hc (by decide))

/-- An escaped character is read as it is. -/
theorem run_escape {tail : List Char} (hc : isSpecial c = true) :
    Reader.escape false (s.before ('\\' :: c :: tail) p) =
      .ok (.literal c false, s.before tail (p + byteLength ['\\', c])) := by
  have hne : ∀ d ∈ escapeLetters, c ≠ d := fun d hd =>
    Pattern.ne_of_isSpecial hc (Pattern.isPlain_iff.mp isPlain_escapeLetters _ hd)
  simp only [escapeLetters, List.forall_mem_cons, List.not_mem_nil, false_imp_iff, implies_true,
    and_true] at hne
  have hhead : ((s.before ('\\' :: c :: tail) p).drop 1).rest.head? = some c := rfl
  have hdrop : ((s.before ('\\' :: c :: tail) p).drop 1).drop 1 =
      s.before tail (p + byteLength ['\\', c]) := by
    simp [Cursor.drop, Cursor.before, byteLength, Nat.add_assoc]
  simp only [Reader.escape, run_position_bind, run_skip_bind, run_peek_bind, hhead, run_flags_bind,
    Pattern.isDigit_of_isSpecial hc, Pattern.toLower_of_isSpecial hc,
    Pattern.isAlpha_of_isSpecial hc, controlEscape?_of_isSpecial hc, hne, decide_false,
    Bool.and_false, Bool.or_false, Bool.false_and, Bool.false_eq_true, if_false]
  rw [run_atEnd_bind, run_pure, hdrop]

/-- Blanks end where no comment in parentheses begins, unless white space and line comments are
blanks. -/
theorem run_blanks_here (hextended : s.flags.extended = false)
    (hrest : ['(', '?', '#'].isPrefixOf s.rest = false) : blanks s = .ok (⟨⟩, s) := by
  have hpass : passBlanks false .between s.rest s.position = .ok (s.rest, s.position) := by
    cases h : s.rest with
    | nil => rfl
    | cons c rest =>
      rw [h] at hrest
      by_cases hc : c = '('
      · subst hc
        have hcomment : ['?', '#'].isPrefixOf rest = false := hrest
        simp [passBlanks, hcomment]
      · simp [passBlanks, hc]
  simp only [blanks, run_get_bind, hextended, hpass]
  rfl

/-- There is nothing to pass where no comment begins, unless blanks are passed over. -/
theorem run_blanks {rest : List Char} (hextended : s.flags.extended = false)
    (hrest : ['(', '?', '#'].isPrefixOf rest = false) :
    blanks (s.before rest p) = .ok (⟨⟩, s.before rest p) :=
  run_blanks_here (s := s.before rest p) hextended hrest

/-- Whether a piece ends in front of a text: neither a comment nor a quantifier begins there. -/
def endsPiece (rest : List Char) : Bool :=
  !(['(', '?', '#'].isPrefixOf rest) &&
    rest.head?.all fun c => c ≠ '?' && c ≠ '*' && c ≠ '+' && c ≠ '\x7b'

/-- A piece ends in front of a character of literal text. -/
theorem endsPiece_escapeChar_append (c : Char) (rest : List Char) :
    endsPiece (escapeChar c ++ rest) = true := by
  cases hc : isSpecial c with
  | true =>
    have hchar : escapeChar c = ['\\', c] := by simp [escapeChar, hc]
    rw [hchar]
    rfl
  | false =>
    have hchar : escapeChar c = [c] := by simp [escapeChar, hc]
    have hne (d : Char) (hd : isSpecial d = true) : c ≠ d := (Pattern.ne_of_isSpecial hd hc).symm
    rw [hchar]
    simp [endsPiece, List.isPrefixOf, (hne '(' rfl).symm, hne '?' rfl, hne '*' rfl, hne '+' rfl,
      hne '\x7b' rfl]

/-- Where a piece ends there is no quantifier. -/
theorem run_quantifier? (hends : endsPiece s.rest = true) : quantifier? s = .ok (none, s) := by
  simp only [quantifier?, run_peek_bind]
  cases hnext : s.rest.head? with
  | none => rfl
  | some c =>
    simp only [endsPiece, hnext, Option.all_some, Bool.and_eq_true, decide_eq_true_eq] at hends
    simp [hends.2]

/-- An atom with the end of a piece behind it is a piece. -/
theorem run_piece {group : Reader Expression} {s' : Cursor} {e : Expression}
    (hatom : atom group s = .ok (e, s')) (hextended : s'.flags.extended = false)
    (hends : endsPiece s'.rest = true) : piece group s = .ok (e, s') := by
  have hblanks : blanks s' = .ok (⟨⟩, s') :=
    run_blanks_here hextended (by simpa using (Bool.and_eq_true_iff.mp hends).1)
  rw [piece, run_bind hatom, run_bind hblanks, run_bind (run_quantifier? hends)]
  rfl

/-- A piece that takes up something is followed by the others. -/
theorem run_branchParts {group : Reader Expression} {s' s'' : Cursor} {e : Expression}
    {parts : List Expression} {fuel : Nat} (hrest : s.rest.isEmpty = false)
    (hpiece : piece group s = .ok (e, s')) (hmoved : s.position < s'.position)
    (hparts : branchParts group fuel s' = .ok (parts, s'')) :
    branchParts group (fuel + 1) s = .ok (if e.isEmpty then parts else e :: parts, s'') := by
  rw [branchParts, run_atEnd_bind, hrest, if_neg Bool.false_ne_true, run_position_bind,
    run_bind hpiece, run_position_bind, if_neg hmoved.ne', run_bind hparts]
  split <;> rfl

/-- A character of literal text is an atom. -/
theorem run_atom_escapeChar (group : Reader Expression) (hs : s.IsPlain) (rest : List Char) :
    atom group (s.before (escapeChar c ++ rest) p) =
      .ok (.literal c false, s.before rest (p + byteLength (escapeChar c))) := by
  cases hc : isSpecial c with
  | true =>
    have hchar : escapeChar c = ['\\', c] := by simp [escapeChar, hc]
    rw [hchar, atom, run_bind (run_blanks hs.extended rfl)]
    exact run_escape hc
  | false =>
    have hchar : escapeChar c = [c] := by simp [escapeChar, hc]
    have hne (d : Char) (hd : isSpecial d = true) : c ≠ d := (Pattern.ne_of_isSpecial hd hc).symm
    have hcomment : ['(', '?', '#'].isPrefixOf ([c] ++ rest) = false := by
      simp [List.isPrefixOf, (hne '(' rfl).symm]
    rw [hchar, atom, run_bind (run_blanks hs.extended hcomment), run_peek_bind]
    simp only [Cursor.before_rest, List.singleton_append, List.head?_cons, run_flags_bind,
      Cursor.before_flags, hs.ignoreCase]
    simp [hne '.' rfl, hne '^' rfl, hne '$' rfl, hne '(' rfl, hne '\\' rfl, hne '+' rfl,
      hne '*' rfl, hne '?' rfl, hne '|' rfl, hne ')' rfl, hne '[' rfl, Cursor.drop_before_cons,
      byteLength]

/-- A text is read to its end as a row of parts, wherever it stands. The parts may depend on whether
there are line anchors. -/
def Reads (group : Reader Expression) (text : List Char) (parts : Bool → List Expression) : Prop :=
  ∀ (s : Cursor) (p fuel : Nat), s.IsPlain → text.length ≤ fuel →
    branchParts group fuel (s.before text p) =
      .ok (parts s.flags.multiLine, s.before [] (p + byteLength text))

section Reads

variable {group : Reader Expression} {text : List Char} {e : Bool → Expression}
  {parts : Bool → List Expression}

/-- A text without characters is read as no parts. -/
theorem reads_nil (group : Reader Expression) : Reads group [] fun _ => [] := by
  intro s p fuel hs hfuel
  cases fuel <;> rfl

/-- A text is read as an atom and what follows if it begins with the atom and that ends there. -/
theorem Reads.cons (h : Reads group text parts) (front : List Char)
    (hends : endsPiece text = true) (hfront : front.isEmpty = false)
    (he : ∀ multiLine, (e multiLine).isEmpty = false)
    (hatom : ∀ (s : Cursor) (p : Nat), s.IsPlain → atom group (s.before (front ++ text) p) =
      .ok (e s.flags.multiLine, s.before text (p + byteLength front))) :
    Reads group (front ++ text) fun multiLine => e multiLine :: parts multiLine := by
  intro s p fuel hs hfuel
  match front, hfront with
  | c :: front, _ =>
    have hpos := c.utf8Size_pos
    obtain ⟨fuel, rfl⟩ := Nat.exists_eq_add_of_le' (show 1 ≤ fuel by
      exact Nat.le_trans (Nat.succ_pos _) hfuel)
    have hfuel : text.length ≤ fuel := by
      simp only [List.cons_append, List.length_cons, List.length_append] at hfuel
      omega
    have hmoved : p < p + byteLength (c :: front) := by
      simp only [byteLength]
      omega
    rw [run_branchParts rfl (run_piece (hatom s p hs) hs.extended hends) hmoved
      (h s _ fuel hs hfuel), he, if_neg Bool.false_ne_true, byteLength_append, Nat.add_assoc]

/-- A character of literal text is read as it is. -/
theorem Reads.char (h : Reads group text parts) (hends : endsPiece text = true) (c : Char) :
    Reads group (escapeChar c ++ text) fun multiLine =>
      .literal c false :: parts multiLine := by
  have hchar : (escapeChar c).isEmpty = false := by
    unfold escapeChar
    split <;> rfl
  exact h.cons _ hends hchar (fun _ => rfl) fun s p hs => run_atom_escapeChar group hs _

end Reads

section FlagLetters

variable {inner : Reader Expression} {before flags : Flags} {start fuel : Nat}
  {letters tail : List Char}

/-- The letter of a flag sets it. -/
theorem run_flagLetters_flag (hextended : s.flags.extended = false)
    (hblank : ['(', '?', '#'].isPrefixOf (c :: tail) = false)
    (hflag : setFlag? s.flags c true = some flags) :
    flagLetters inner before start letters (fuel + 1) false (s.before (c :: tail) p) =
      flagLetters inner before start letters fuel false
        ({ s with flags := flags }.before tail (p + c.utf8Size)) := by
  rw [flagLetters, run_bind (run_blanks hextended hblank)]
  simp only [run_peek_bind, Cursor.before_rest, List.head?_cons, run_position_bind, run_get_bind,
    run_flags_bind, Cursor.before_flags, Bool.not_false, hflag]
  rfl

/-- The flags end with a parenthesis. -/
theorem run_flagLetters_close (hextended : s.flags.extended = false) (hstart : p ≠ start) :
    flagLetters inner before start letters (fuel + 1) false (s.before (')' :: tail) p) =
      .ok (.empty, s.before tail (p + 1)) := by
  have hflag : setFlag? s.flags ')' (!false) = none := rfl
  rw [flagLetters, run_bind (run_blanks hextended rfl)]
  simp only [run_peek_bind, Cursor.before_rest, List.head?_cons, run_position_bind, run_get_bind,
    run_flags_bind, Cursor.before_flags, hflag, Cursor.before_position]
  have hwidth : ')'.utf8Size = 1 := rfl
  simp [hstart, Cursor.drop_before_cons, hwidth]

end FlagLetters

/-- The flag for line anchors is set for what follows. -/
theorem run_groupWith_flag (inner : Reader Expression) (hextended : s.flags.extended = false)
    (rest : List Char) :
    groupWith inner (s.before ('(' :: '?' :: 'm' :: ')' :: rest) p) =
      .ok (.empty, s.multiLine.before rest (p + 4)) := by
  have hletters : groupWith inner (s.before ('(' :: '?' :: 'm' :: ')' :: rest) p) =
      flagLetters inner s.flags (p + 2) ('m' :: ')' :: rest) (rest.length + 3) false
        (s.before ('m' :: ')' :: rest) (p + 2)) := by
    rw [groupWith, run_skip_bind, Cursor.drop_before_cons, run_bind (run_blanks hextended rfl)]
    rfl
  rw [hletters, run_flagLetters_flag hextended rfl rfl]
  exact run_flagLetters_close hextended (Nat.succ_ne_self _)

/-- The flag for line anchors is a piece without a part. -/
theorem run_piece_flag (inner : Reader Expression) (hextended : s.flags.extended = false)
    {rest : List Char} (hends : endsPiece rest = true) :
    piece (groupWith inner) (s.before ('(' :: '?' :: 'm' :: ')' :: rest) p) =
      .ok (.empty, s.multiLine.before rest (p + 4)) := by
  have hatom : atom (groupWith inner) (s.before ('(' :: '?' :: 'm' :: ')' :: rest) p) =
      .ok (.empty, s.multiLine.before rest (p + 4)) := by
    rw [atom, run_bind (run_blanks hextended rfl)]
    exact run_groupWith_flag inner hextended rest
  exact run_piece hatom hextended hends

/-- A branch is the only one if no bar follows it. -/
theorem run_alternatives {group : Reader Expression} {s' : Cursor} {parts : List Expression}
    (h : branchParts group (s.rest.length + 1) s = .ok (parts, s'))
    (hblanks : blanks s' = .ok (⟨⟩, s')) (hbar : ['|'].isPrefixOf s'.rest = false)
    (hnumbered : s'.numbered = false) : alternatives group s = .ok (.ofParts parts, s') := by
  have hbranch : branch group s = .ok (.ofParts parts, s') := by
    rw [branch, run_get_bind, run_bind h, run_pure]
  rw [alternatives, run_bind hbranch, run_bind hblanks, run_get_bind, otherBranches, bind_assoc,
    run_comesNext_bind, hbar]
  simp [hnumbered]

end Reader

namespace ParsedPattern

/-- A pattern that is read as a branch to its end, without groups, is that branch. -/
theorem ofText_of_branchParts {pattern : List Char} {parts : List Expression} {s : Cursor}
    (h : Reader.branchParts (Reader.groupWith (Reader.expression (nestingLimit - 1)))
      (pattern.length + 1) (.ofPattern pattern) = .ok (parts, s))
    (hrest : s.rest = []) (hextended : s.flags.extended = false) (hnumbered : s.numbered = false)
    (hopened : s.openedGroups = 0) : ofText pattern = .ok ⟨.ofParts parts, 0⟩ := by
  have hblanks := Reader.run_blanks_here hextended (by rw [hrest]; rfl)
  have hread : Reader.expression nestingLimit (.ofPattern pattern) = .ok (.ofParts parts, s) :=
    Reader.run_alternatives h hblanks (by rw [hrest]; rfl) hnumbered
  rw [ofText, StateT.run, hread]
  simp [hrest, hopened, bind, Except.bind, pure, Except.pure]

/-- A pattern is read as the row of its parts, with line anchors unless they are given up. -/
theorem ofText_of_reads {pattern : List Char} {parts : Bool → List Expression}
    (h : Reader.Reads (Reader.groupWith (Reader.expression (nestingLimit - 1))) pattern parts)
    (hends : Reader.endsPiece pattern = true) (options : Options) :
    ofText (options.engineText pattern) =
      .ok ⟨.ofParts (parts !options.singleLineAnchors), 0⟩ := by
  have hplain (pattern : List Char) : (Cursor.ofPattern pattern).IsPlain := ⟨rfl, rfl, rfl⟩
  unfold Options.engineText
  cases options.singleLineAnchors with
  | true =>
    exact ofText_of_branchParts (h (.ofPattern pattern) 0 _ (hplain pattern) (Nat.le_succ _))
      rfl rfl rfl rfl
  | false =>
    let s := Cursor.ofPattern ("(?m)".toList ++ pattern)
    have hrest := h s.multiLine 4 (pattern.length + 4) ⟨rfl, rfl, rfl⟩ (Nat.le_add_right _ _)
    have hflag : Reader.branchParts (Reader.groupWith (Reader.expression (nestingLimit - 1)))
        (pattern.length + 5) s = .ok (parts true, s.multiLine.before [] (4 + byteLength pattern)) :=
      Reader.run_branchParts rfl (Reader.run_piece_flag (s := s) (p := 0) _ rfl hends)
        (Nat.succ_pos 3) hrest
    exact ofText_of_branchParts hflag rfl rfl rfl rfl

end ParsedPattern

end GrammarScan
