import GrammarScan.Expression.Fault
import GrammarScan.Expression.Tree
import GrammarScan.Text.Bytes
import GrammarScan.Unicode.Word

/-!
# Reading a pattern

The state of reading: what is left of the pattern, the byte offset reached, the flags in force, the
groups met so far and whether a group was referred to by number. A reader either fails with a fault
or gives a value and the state after it. Blanks between the parts of a pattern are comments in
parentheses, and white space and line comments where the flag for them is set.
-/

namespace GrammarScan

/-- The flags that a pattern can set for what follows. -/
structure Flags where
  ignoreCase : Bool := false
  multiLine : Bool := false
  dotAll : Bool := false
  swapGreed : Bool := false
  extended : Bool := false
  deriving DecidableEq, Inhabited, Repr

/-- A pattern that is being read. -/
structure Cursor where
  rest : List Char
  position : Nat
  length : Nat
  flags : Flags
  openedGroups : Nat
  names : List (List Char × Nat)
  numbered : Bool
  deriving Inhabited, Repr

/-- A step of reading. -/
abbrev Reader := StateT Cursor (Except ExpressionFault)

namespace Cursor

/-- The start of a pattern. -/
def ofPattern (pattern : List Char) : Cursor where
  rest := pattern
  position := 0
  length := byteLength pattern
  flags := {}
  openedGroups := 0
  names := []
  numbered := false

/-- The state after the next `count` characters. -/
def drop (s : Cursor) (count : Nat) : Cursor :=
  { s with
    rest := s.rest.drop count
    position := s.position + byteLength (s.rest.take count) }

end Cursor

/-- Where reading blanks stands: between blanks, in a line comment, or in a comment in parentheses
of which some characters are to be taken as they are. -/
inductive BlankState where
  | between
  | line
  | comment (skip : Nat)

/-- Passes blanks. An unclosed comment fails with the position where its end was looked for, which
lies behind the pattern if the last character should have been skipped. -/
def passBlanks (extended : Bool) : BlankState → List Char → Nat → Except Nat (List Char × Nat)
  | .between, [], p => .ok ([], p)
  | .between, c :: s, p =>
    if extended && (c = ' ' || c = '\r' || c = '\n' || c = '\t') then
      passBlanks extended .between s (p + 1)
    else if extended && c = '#' then passBlanks extended .line s (p + 1)
    else if c = '(' && ['?', '#'].isPrefixOf s then passBlanks extended (.comment 2) s (p + 1)
    else .ok (c :: s, p)
  | .line, [], p => .ok ([], p)
  | .line, c :: s, p =>
    passBlanks extended (if c = '\n' then .between else .line) s (p + c.utf8Size)
  | .comment skip, [], p => .error (p + skip)
  | .comment (skip + 1), c :: s, p => passBlanks extended (.comment skip) s (p + c.utf8Size)
  | .comment 0, c :: s, p =>
    if c = ')' then passBlanks extended .between s (p + 1)
    else if c = '\\' then passBlanks extended (.comment 1) s (p + 1)
    else passBlanks extended (.comment 0) s (p + c.utf8Size)

namespace Reader

/-- Fails at a position. -/
def failAt {α : Type} (position : Nat) (fault : NotationFault) : Reader α :=
  throw (.spelling position fault)

/-- Fails where reading stands. -/
def fail {α : Type} (fault : NotationFault) : Reader α := do
  failAt (← get).position fault

/-- The byte offset reached. -/
def position : Reader Nat := return (← get).position

/-- The flags in force. -/
def flags : Reader Flags := return (← get).flags

/-- The next character. -/
def peek? : Reader (Option Char) := return (← get).rest.head?

/-- Whether the given characters come next. -/
def comesNext (s : List Char) : Reader Bool := return s.isPrefixOf (← get).rest

/-- Passes characters. -/
def skip (count : Nat) : Reader Unit := modify (·.drop count)

/-- Whether the pattern is read to its end. -/
def atEnd : Reader Bool := return (← get).rest.isEmpty

/-- Passes blanks. -/
def blanks : Reader Unit := do
  let s ← get
  match passBlanks s.flags.extended .between s.rest s.position with
  | .ok (rest, position) => set { s with rest := rest, position := position }
  | .error position => failAt position .unclosedParenthesis

/-- Tries a reader, and stays where it is if that fails. -/
def attempt {α : Type} (reader : Reader α) : Reader (Option α) := fun s =>
  match reader s with
  | .ok (value, s) => .ok (some value, s)
  | .error _ => .ok (none, s)

/-- Reads a run of decimal digits that fits a machine word, or stays where it is. -/
def decimal? : Reader (Option Nat) := do
  let digits := (← get).rest.takeWhile Char.isDigit
  let value := digits.foldl (fun n d => n * 10 + (d.toNat - '0'.toNat)) 0
  if digits.isEmpty || UInt64.size ≤ value then return none
  skip digits.length
  return some value

end Reader

end GrammarScan
