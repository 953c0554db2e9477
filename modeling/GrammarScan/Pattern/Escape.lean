import GrammarScan.Unicode.WhiteSpace

/-!
# Literal text in patterns

A text is made to match itself by putting a backslash before every character that a pattern may
read in another way: the characters of the pattern notation, and white space, which some patterns
skip.
-/

namespace GrammarScan.Pattern

/-- The characters of the pattern notation. -/
def notationCharacters : List Char :=
  ['-', '\\', '{', '}', '*', '+', '?', '|', '^', '$', '.', ',', '[', ']', '(', ')', '#']

/-- Whether a character needs a backslash to stand for itself. -/
def isSpecial (c : Char) : Bool := notationCharacters.contains c || Unicode.isWhiteSpace c

/-- One character as a pattern that matches just it. -/
def escapeChar (c : Char) : List Char := if isSpecial c then ['\\', c] else [c]

/-- A text as a pattern that matches just it. -/
def escape (s : List Char) : List Char := s.flatMap escapeChar

/-- Whether escaping leaves the text as it is. -/
def isPlain (s : List Char) : Bool := !s.any isSpecial

end GrammarScan.Pattern
