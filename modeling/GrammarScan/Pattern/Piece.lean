/-!
# Pieces of a pattern

Read from left to right, a pattern falls into pieces: a backslash with the run of digits after it
is a reference, a backslash with any other character is an escape, a backslash at the very end
dangles, and every other character is a piece of its own.
-/

namespace GrammarScan.Pattern

/-- A piece of a pattern. -/
inductive Piece where
  | plain (c : Char)
  | escaped (c : Char)
  | reference (digits : List Char)
  | dangling
  deriving DecidableEq, Inhabited, Repr

/-- The text of a piece. -/
def Piece.text : Piece → List Char
  | .plain c => [c]
  | .escaped c => ['\\', c]
  | .reference digits => '\\' :: digits
  | .dangling => ['\\']

/-- The text of a list of pieces. -/
def spell (pieces : List Piece) : List Char := pieces.flatMap Piece.text

/-- What the characters read so far make of the next one. -/
inductive Reading where
  | between
  | afterBackslash
  | inDigits (reversed : List Char)

/-- The piece that is still open at the end of the text. -/
def Reading.close : Reading → List Piece
  | .between => []
  | .afterBackslash => [.dangling]
  | .inDigits reversed => [.reference reversed.reverse]

/-- Reads one character outside escapes. -/
def Reading.fresh (c : Char) : List Piece × Reading :=
  if c = '\\' then ([], .afterBackslash) else ([.plain c], .between)

/-- The pieces that a character completes, and the reading after it. -/
def Reading.next : Reading → Char → List Piece × Reading
  | .between, c => fresh c
  | .afterBackslash, c =>
    if c.isDigit then ([], .inDigits [c]) else ([.escaped c], .between)
  | .inDigits reversed, c =>
    if c.isDigit then ([], .inDigits (c :: reversed))
    else (.reference reversed.reverse :: (fresh c).1, (fresh c).2)

/-- The pieces of the text that follows a reading. -/
def piecesFrom (r : Reading) : List Char → List Piece
  | [] => r.close
  | c :: s => (r.next c).1 ++ piecesFrom (r.next c).2 s

/-- The pieces of a pattern. -/
def pieces (s : List Char) : List Piece := piecesFrom .between s

end GrammarScan.Pattern
