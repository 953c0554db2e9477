import GrammarScan.Proofs.Expression.Literal

/-!
# Reading anchors

The anchors that patterns of a grammar are written with, each as an atom: those behind a backslash,
the end of a line, and looking around for a line feed. A look-around is read to the parenthesis that
closes it.
-/

namespace GrammarScan.Reader

variable {group inner : Reader Expression} {text : List Char} {parts : Bool → List Expression}
  {s : Cursor} {p : Nat}

/-- The start of the text is read as such. -/
theorem Reads.textStart (h : Reads group text parts) (hends : endsPiece text = true) :
    Reads group ('\\' :: 'A' :: text) fun multiLine => .assertion .textStart :: parts multiLine :=
  h.cons ['\\', 'A'] hends rfl (fun _ => rfl) fun s p hs => by
    rw [atom, run_bind (run_blanks hs.extended rfl)]
    rfl

/-- The start of the search is read as such. -/
theorem Reads.searchStart (h : Reads group text parts) (hends : endsPiece text = true) :
    Reads group ('\\' :: 'G' :: text) fun multiLine => .searchStart :: parts multiLine :=
  h.cons ['\\', 'G'] hends rfl (fun _ => rfl) fun s p hs => by
    rw [atom, run_bind (run_blanks hs.extended rfl)]
    rfl

/-- The assertion that the sign for an end is read as: the end of a line if there are line anchors,
and otherwise the end of the text. -/
def endCondition (multiLine : Bool) : Assertion := if multiLine then .lineEnd else .textEnd

/-- A dollar sign in front of what can be read is an anchor for the end. -/
theorem Reads.lineEnd (h : Reads group text parts) (hends : endsPiece text = true) :
    Reads group ('$' :: text) fun multiLine =>
      .assertion (endCondition multiLine) :: parts multiLine :=
  h.cons ['$'] hends rfl (fun _ => rfl) fun s p hs => by
    rw [atom, run_bind (run_blanks hs.extended rfl)]
    rfl

/-! ## Looking around for a line feed -/

/-- What is read where a parenthesis closes a group is nothing. -/
theorem run_branchParts_close (hs : s.IsPlain) (fuel : Nat) :
    branchParts group (fuel + 1) (s.before (')' :: text) p) =
      .ok ([], s.before (')' :: text) p) := by
  have hatom : atom group (s.before (')' :: text) p) = .ok (.empty, s.before (')' :: text) p) := by
    rw [atom, run_bind (run_blanks hs.extended rfl)]
    rfl
  rw [branchParts, run_atEnd_bind, Cursor.before_rest, List.isEmpty_cons,
    if_neg Bool.false_ne_true, run_position_bind, run_bind (run_piece hatom hs.extended rfl),
    run_position_bind, if_pos rfl]
  rfl

/-- A line feed in front of the parenthesis that closes a group is the body of the group. -/
theorem run_expression_lineFeed (hs : s.IsPlain) (depth : Nat) :
    expression (depth + 1) (s.before ('\\' :: 'n' :: ')' :: text) p) =
      .ok (.literal '\n' false, s.before (')' :: text) (p + 2)) := by
  have hatom : atom (groupWith (expression depth)) (s.before ('\\' :: 'n' :: ')' :: text) p) =
      .ok (.literal '\n' false, s.before (')' :: text) (p + 2)) := by
    rw [atom, run_bind (run_blanks hs.extended rfl)]
    rfl
  exact run_alternatives
    (run_branchParts rfl (run_piece hatom hs.extended rfl)
      (Nat.lt_add_of_pos_right (Nat.succ_pos 1)) (run_branchParts_close hs _))
    (run_blanks hs.extended rfl) rfl hs.numbered

/-- The parenthesis that closes a group is passed. -/
theorem run_closeParenthesis (hs : s.IsPlain) :
    closeParenthesis (s.before (')' :: text) p) = .ok (⟨⟩, s.before text (p + 1)) := by
  rw [closeParenthesis, run_bind (run_blanks hs.extended rfl)]
  rfl

/-- How it is written that there is no line feed on a side of the position. -/
def noLineFeed : Side → List Char
  | .ahead => "(?!\\n)".toList
  | .behind => "(?<!\\n)".toList

/-- What a group holds, with the parenthesis that closes it. -/
def groupBody (inner : Reader Expression) : Reader Expression := do
  let body ← inner
  closeParenthesis
  return body

/-- An escaped line feed and a closing parenthesis are the body of a group. -/
theorem run_groupBody_lineFeed (hs : s.IsPlain) (depth : Nat) :
    groupBody (expression (depth + 1)) (s.before ('\\' :: 'n' :: ')' :: text) p) =
      .ok (.literal '\n' false, s.before text (p + 3)) := by
  rw [groupBody, run_bind (run_expression_lineFeed hs depth), run_bind (run_closeParenthesis hs)]
  rfl

/-- Behind its signs a look-around is what the group holds. -/
theorem run_groupWith_noLineFeed (inner : Reader Expression) (hs : s.IsPlain) (side : Side) :
    groupWith inner (s.before (noLineFeed side ++ text) p) =
      (groupBody inner >>= fun body => pure (.lookAround side true body))
        (s.before ('\\' :: 'n' :: ')' :: text) (p + byteLength (noLineFeed side) - 3)) := by
  cases side with
  | ahead =>
    rw [groupWith, run_skip_bind]
    change (blanks >>= _) (s.before ('?' :: '!' :: '\\' :: 'n' :: ')' :: text) (p + 1)) = _
    rw [run_bind (run_blanks hs.extended rfl)]
    rfl
  | behind =>
    rw [groupWith, run_skip_bind]
    change (blanks >>= _) (s.before ('?' :: '<' :: '!' :: '\\' :: 'n' :: ')' :: text) (p + 1)) = _
    rw [run_bind (run_blanks hs.extended rfl)]
    rfl

/-- That there is no line feed on a side of the position is read as such. -/
theorem Reads.noLineFeed {depth : Nat}
    (h : Reads (groupWith (expression (depth + 1))) text parts) (hends : endsPiece text = true)
    (side : Side) :
    Reads (groupWith (expression (depth + 1))) (noLineFeed side ++ text) fun multiLine =>
      .lookAround side true (.literal '\n' false) :: parts multiLine := by
  refine h.cons _ hends (by cases side <;> rfl) (fun _ => rfl) fun s p hs => ?_
  have hatom : atom (groupWith (expression (depth + 1)))
      (s.before (Reader.noLineFeed side ++ text) p) =
        groupWith (expression (depth + 1)) (s.before (Reader.noLineFeed side ++ text) p) := by
    cases side with
    | ahead | behind =>
      rw [atom, run_bind (run_blanks hs.extended rfl)]
      rfl
  rw [hatom, run_groupWith_noLineFeed _ hs, run_bind (run_groupBody_lineFeed hs depth), run_pure]
  cases side <;> rfl

end GrammarScan.Reader
