import GrammarScan.Expression.Cursor

/-!
# Parsing a pattern

A pattern is alternatives of branches, a branch is a run of pieces, and a piece is an atom with at
most one quantifier. Groups nest to a fixed depth; what a group holds is read by the same rules one
level down. A quantifier in braces that cannot be read as one is literal text. Flags that a pattern
sets stay in force to the end of the innermost group that has flags of its own.
-/

namespace GrammarScan.Reader

/-- A group name is made of letters, digits and underscores. -/
def isNameChar (c : Char) : Bool := Unicode.isAlphanumeric c || c = '_'

/-- Reads a name between two delimiters, or stays where it is. Where relative numbers are allowed
the name may be a minus sign with decimal digits. -/
def name? (opening closing : List Char) (relative : Bool) : Reader (Option (List Char)) := do
  let rest := (← get).rest
  if !opening.isPrefixOf rest then return none
  let rest := rest.drop opening.length
  let name :=
    match relative, rest with
    | true, '-' :: digits => '-' :: digits.takeWhile Char.isDigit
    | _, rest => rest.takeWhile isNameChar
  if name.isEmpty || !closing.isPrefixOf (rest.drop name.length) then return none
  skip (opening.length + name.length + closing.length)
  return some name

/-- The value of a whole text of decimal digits. -/
def numeral? (digits : List Char) : Option Nat :=
  if digits.isEmpty || !digits.all Char.isDigit then none
  else some (digits.foldl (fun n d => n * 10 + (d.toNat - '0'.toNat)) 0)

/-- The group that a name refers to: the last group of that name, the group of that number, or,
counting back from the groups opened so far, the group of a negative number. -/
def groupOfName? (s : Cursor) (name : List Char) : Option Nat :=
  match s.names.lookup name with
  | some group => some group
  | none =>
    match name with
    | '-' :: digits => do
      let count ← numeral? digits
      if count = 0 then some 0
      else if count ≤ s.openedGroups + 1 then some (s.openedGroups + 1 - count)
      else none
    | digits => (numeral? digits).filter (· < UInt64.size / 2)

/-- Reads a reference by name, delimiters included, and gives its group. -/
def namedReference (opening closing : List Char) (relative : Bool) : Reader Nat := do
  let start ← position
  let some name ← name? opening closing relative | failAt start .invalidGroupName
  match groupOfName? (← get) name with
  | some group => return group
  | none => failAt start (.unknownGroupName name)

/-- Reads a reference by number. Numbers have to lie below half the length of the pattern. -/
def numberedReference : Reader Nat := do
  let start ← position
  let some group ← decimal? | failAt start .invalidReference
  if (← get).length / 2 ≤ group then failAt start .invalidReference
  modify fun s => { s with numbered := true }
  return group

/-- The value of one hexadecimal digit. -/
def hexDigitValue (d : Char) : Nat :=
  if d.isDigit then d.toNat - '0'.toNat else d.toLower.toNat - 'a'.toNat + 10

/-- The value of hexadecimal digits. -/
def hexValue (digits : List Char) : Nat := digits.foldl (fun n d => n * 16 + hexDigitValue d) 0

/-- Reads a code point, either with a fixed count of hexadecimal digits or with up to eight of them
between braces. -/
def hexCharacter (count : Nat) : Reader Char := do
  let start ← position
  let rest := (← get).rest
  let isHex (c : Char) : Bool :=
    c.isDigit || ('a' ≤ c && c ≤ 'f') || ('A' ≤ c && c ≤ 'F')
  let fixed := rest.take count
  let code ←
    if fixed.length = count && fixed.all isHex then do
      skip count
      pure (hexValue fixed)
    else
      match rest with
      | '\x7b' :: rest =>
        let digits := (rest.take 8).takeWhile isHex
        if digits.isEmpty || (rest.drop digits.length).head? != some '\x7d' then
          failAt start .invalidHex
        skip (digits.length + 2)
        pure (hexValue digits)
      | _ => failAt start .invalidHex
  if h : code.isValidChar then return Char.ofNatAux code h
  else failAt start .invalidCodePoint

/-- The control characters that have a letter of their own after a backslash. -/
def controlEscape? (c : Char) : Option Char :=
  match c with
  | 'a' => some '\x07'
  | 'b' => some '\x08'
  | 'f' => some '\x0c'
  | 'n' => some '\n'
  | 'r' => some '\r'
  | 't' => some '\t'
  | 'v' => some '\x0b'
  | 'e' => some '\x1b'
  | _ => none

/-- Reads the rest of a property escape up to its end, from behind its letter on. -/
def propertyName (start : Nat) : Reader (List Char) := do
  let rest := (← get).rest
  match rest with
  | '\x7b' :: inner =>
    let body := inner.takeWhile (· ≠ '\x7d')
    if body.length = inner.length then failAt start .unclosedProperty
    skip (body.length + 2)
    return '\x7b' :: body ++ ['\x7d']
  | c :: _ =>
    skip 1
    return [c]
  | [] => return []

/-- Reads an escape, from its backslash on. Inside a character class fewer letters have a meaning
of their own. A character that is escaped as it is stands for just itself, whatever the flags. -/
def escape (inClass : Bool) : Reader Expression := do
  let start ← position
  skip 1
  let some c ← peek? | failAt start .trailingBackslash
  let ignoreCase := (← flags).ignoreCase
  let lower := c.toLower
  if c.isDigit then return .backReference (← numberedReference)
  skip 1
  let outside := !inClass
  if outside && c = 'k' then
    if ← comesNext ['\''] then return .backReference (← namedReference ['\''] ['\''] true)
    return .backReference (← namedReference ['<'] ['>'] true)
  if outside && c = 'A' then return .assertion .textStart
  if outside && c = 'z' then return .assertion .textEnd
  if outside && (c = 'b' || c = 'B') then
    if ← comesNext ['\x7b'] then failAt start (.invalidEscape ['\\', c])
    return .assertion (if c = 'b' then .wordBoundary else .notWordBoundary)
  if outside && c = '<' then return .assertion .wordStart
  if outside && c = '>' then return .assertion .wordEnd
  if lower = 'd' || lower = 's' || lower = 'w' then return .charClass ['\\', c] ignoreCase
  if c = 'h' then return .charClass "[0-9A-Fa-f]".toList false
  if c = 'H' then return .charClass "[^0-9A-Fa-f]".toList false
  if c = 'x' then return .literal (← hexCharacter 2) ignoreCase
  if c = 'u' then return .literal (← hexCharacter 4) ignoreCase
  if c = 'U' then return .literal (← hexCharacter 8) ignoreCase
  if lower = 'p' && !(← atEnd) then
    return .charClass ('\\' :: c :: (← propertyName start)) ignoreCase
  if outside && c = 'K' then return .keepOut
  if outside && c = 'G' then return .searchStart
  match controlEscape? c with
  | some control => return .literal control false
  | none =>
    if c.isAlpha && !(['k', 'A', 'z', 'B', 'K', 'G'].contains c) then
      failAt start (.invalidEscape ['\\', c])
    return .literal c false

/-- The characters that have a meaning inside character classes or outside of them. -/
def classNotation : List Char :=
  ['\\', '.', '+', '*', '?', '(', ')', '|', '[', ']', '\x7b', '\x7d', '^', '$', '#', '&', '-', '~']

/-- Reads the text of a character class to the bracket that closes it. Escapes are replaced by
those that classes know. `depth` brackets are open; `fuel` bounds the items still to come. -/
def classBody : (fuel depth : Nat) → (text : List Char) → Reader (List Char)
  | 0, _, _ => fail .invalidClass
  | fuel + 1, depth, text => do
    let some c ← peek? | fail .invalidClass
    if c = '\\' then
      let start ← position
      match ← escape true with
      | .literal c _ =>
        classBody fuel depth (text ++ if classNotation.contains c then ['\\', c] else [c])
      | .charClass inner _ => classBody fuel depth (text ++ inner)
      | _ => failAt start .invalidClass
    else
      skip 1
      if c = '[' then classBody fuel (depth + 1) (text ++ [c])
      else if c = ']' then
        match depth with
        | 0 => return text ++ [c]
        | depth + 1 => classBody fuel depth (text ++ [c])
      else classBody fuel depth (text ++ [c])

/-- Reads a character class, from its bracket on. A closing bracket in the first place is part of
the class. -/
def bracketClass : Reader Expression := do
  skip 1
  let negated ← comesNext ['^']
  if negated then skip 1
  let closed ← comesNext [']']
  if closed then skip 1
  let opening := ['['] ++ (if negated then ['^'] else []) ++ (if closed then [']'] else [])
  let text ← classBody ((← get).rest.length + 1) 0 opening
  return .charClass text (← flags).ignoreCase

/-- Passes the parenthesis that closes a group, and blanks before it. -/
def closeParenthesis : Reader Unit := do
  blanks
  match ← peek? with
  | none => fail .unclosedParenthesis
  | some c => if c = ')' then skip 1 else fail (.general "expected close paren")

/-- The flags with the one of a letter set or cleared, if the letter is a flag. -/
def setFlag? (flags : Flags) (letter : Char) (value : Bool) : Option Flags :=
  match letter with
  | 'i' => some { flags with ignoreCase := value }
  | 'm' => some { flags with multiLine := value }
  | 's' => some { flags with dotAll := value }
  | 'U' => some { flags with swapGreed := value }
  | 'x' => some { flags with extended := value }
  | _ => none

/-- Reads the letters of a group that sets flags, from `start` on, where `letters` began. Flags for
a body are taken back behind it. -/
def flagLetters (inner : Reader Expression) (before : Flags) (start : Nat) (letters : List Char) :
    (fuel : Nat) → (negated : Bool) → Reader Expression
  | 0, _ => fail .unclosedParenthesis
  | fuel + 1, negated => do
    blanks
    let some c ← peek? | fail .unclosedParenthesis
    let here ← position
    let read := letters.take (letters.length - (← get).rest.length + 1)
    let unknown {α : Type} : Reader α := failAt start (.unknownFlag (['(', '?'] ++ read))
    if let some flags := setFlag? (← flags) c (!negated) then
      modify fun s => { s with flags := flags }
      skip 1
      flagLetters inner before start letters fuel negated
    else if c = 'u' then
      if negated then fail .cannotDisableUnicode
      skip 1
      flagLetters inner before start letters fuel negated
    else if c = '-' then
      if negated then unknown
      skip 1
      flagLetters inner before start letters fuel true
    else if c = ')' then
      if here = start || (negated && here = start + 1) then unknown
      skip 1
      return .empty
    else if c = ':' then
      if negated && here = start + 1 then unknown
      skip 1
      let body ← inner
      match ← peek? with
      | none => fail .unclosedParenthesis
      | some c =>
        if c ≠ ')' then fail (.general "expected close paren")
        skip 1
        modify fun s => { s with flags := before }
        return body
    else unknown

/-- Reads what follows the parenthesis before the test of a conditional. -/
def conditional (inner : Reader Expression) : Reader Expression := do
  let some c ← peek? | fail .unclosedParenthesis
  let test ←
    if c = '\'' then Expression.backReference <$> namedReference ['\''] ['\''] true
    else if c = '<' then Expression.backReference <$> namedReference ['<'] ['>'] true
    else if c.isDigit then Expression.backReference <$> numberedReference
    else inner
  closeParenthesis
  let start ← position
  let branches ← inner
  if (← position) = start then
    match test with
    | .backReference group =>
      closeParenthesis
      return .groupMatched group
    | _ =>
      fail (.general ("expected conditional to be a backreference or at least an expression " ++
        "for when the condition is true"))
  let (yes, no) : Expression × Expression :=
    match branches with
    | .alternation (yes :: [no]) => (yes, no)
    | .alternation (yes :: rest) => (yes, .alternation rest)
    | yes => (yes, .empty)
  let test : Expression :=
    match test with
    | .backReference group => .groupMatched group
    | test => test
  closeParenthesis
  return if yes.isEmpty && no.isEmpty then test else .conditional test yes no

/-- Opens a group that captures, and gives its number. -/
def openGroup : Reader Nat := do
  modify fun s => { s with openedGroups := s.openedGroups + 1 }
  return (← get).openedGroups

/-- Opens a group with a name that stands between angle brackets behind `skipped` characters. -/
def openNamedGroup (skipped : Nat) : Reader Nat := do
  let start ← position
  let index ← openGroup
  skip skipped
  let some name ← name? ['<'] ['>'] false | failAt start .invalidGroupName
  modify fun s => { s with names := (name, index) :: s.names }
  return index

/-- Reads a group, from its parenthesis on; `inner` reads what groups inside of it hold. -/
def groupWith (inner : Reader Expression) : Reader Expression := do
  skip 1
  blanks
  let body : Reader Expression := do
    let body ← inner
    closeParenthesis
    return body
  if ← comesNext ['?', '='] then
    skip 2
    return .lookAround .ahead false (← body)
  if ← comesNext ['?', '!'] then
    skip 2
    return .lookAround .ahead true (← body)
  if ← comesNext ['?', '<', '='] then
    skip 3
    return .lookAround .behind false (← body)
  if ← comesNext ['?', '<', '!'] then
    skip 3
    return .lookAround .behind true (← body)
  if ← comesNext ['?', '<'] then
    let index ← openNamedGroup 1
    return .group index (← body)
  if ← comesNext ['?', 'P', '<'] then
    let index ← openNamedGroup 2
    return .group index (← body)
  if ← comesNext ['?', 'P', '='] then
    skip 3
    return .backReference (← namedReference [] [')'] false)
  if ← comesNext ['?', '>'] then
    skip 2
    return .atomic (← body)
  if ← comesNext ['?', '('] then
    skip 2
    return ← conditional inner
  if ← comesNext ['?'] then
    skip 1
    let s ← get
    return ← flagLetters inner s.flags s.position s.rest (s.rest.length + 1) false
  let index ← openGroup
  return .group index (← body)

/-- Reads the bounds of a quantifier in braces. -/
def bounds : Reader (Nat × Option Nat) := do
  skip 1
  blanks
  let least ←
    if ← comesNext [','] then pure 0
    else
      let some least ← decimal? | fail .notRepeatable
      pure least
  blanks
  let most ←
    match ← peek? with
    | some '\x7d' => pure (some least)
    | some ',' => do
      skip 1
      blanks
      decimal?
    | _ => fail .notRepeatable
  blanks
  if !(← comesNext ['\x7d']) then fail .notRepeatable
  skip 1
  return (least, most.filter (· + 1 < UInt64.size))

/-- Reads the bounds that a quantifier sets, or stays where it is. -/
def quantifier? : Reader (Option (Nat × Option Nat)) := do
  match ← peek? with
  | some '?' => do
    skip 1
    return some (0, some 1)
  | some '*' => do
    skip 1
    return some (0, none)
  | some '+' => do
    skip 1
    return some (1, none)
  | some '\x7b' => attempt bounds
  | _ => return none

/-- Reads one atom; `group` reads groups. Characters that cannot begin an atom are left alone. -/
def atom (group : Reader Expression) : Reader Expression := do
  blanks
  let some c ← peek? | return .empty
  let flags ← flags
  match c with
  | '.' => do
    skip 1
    return .anyChar flags.dotAll
  | '^' => do
    skip 1
    return .assertion (if flags.multiLine then .lineStart else .textStart)
  | '$' => do
    skip 1
    return .assertion (if flags.multiLine then .lineEnd else .textEnd)
  | '(' => group
  | '\\' => escape false
  | '+' | '*' | '?' | '|' | ')' => return .empty
  | '[' => bracketClass
  | c => do
    skip 1
    return .literal c flags.ignoreCase

/-- Reads an atom and its quantifier. A plus sign behind a quantifier makes it possessive. -/
def piece (group : Reader Expression) : Reader Expression := do
  let body ← atom group
  blanks
  let some (least, most) ← quantifier? | return body
  if !body.isRepeatable then failAt ((← position) - 1) .notRepeatable
  blanks
  let lazily ← comesNext ['?']
  if lazily then skip 1
  let greedy := lazily == (← flags).swapGreed
  let repeated := Expression.iteration least most greedy body
  if ← comesNext ['+'] then
    skip 1
    return .atomic repeated
  return repeated

/-- Reads pieces as long as they take up anything, and drops the empty ones. -/
def branchParts (group : Reader Expression) : (fuel : Nat) → Reader (List Expression)
  | 0 => return []
  | fuel + 1 => do
    if ← atEnd then return []
    let start ← position
    let first ← piece group
    if (← position) = start then return []
    let rest ← branchParts group fuel
    return if first.isEmpty then rest else first :: rest

/-- Reads a run of pieces. -/
def branch (group : Reader Expression) : Reader Expression := do
  return .ofParts (← branchParts group ((← get).rest.length + 1))

/-- Reads the branches that follow the first one, each behind a bar. -/
def otherBranches (group : Reader Expression) : (fuel : Nat) → Reader (List Expression)
  | 0 => return []
  | fuel + 1 => do
    if !(← comesNext ['|']) then return []
    skip 1
    let next ← branch group
    blanks
    return next :: (← otherBranches group fuel)

/-- Reads alternatives. References by number do not go together with groups that have names. -/
def alternatives (group : Reader Expression) : Reader Expression := do
  let first ← branch group
  blanks
  let rest ← otherBranches group ((← get).rest.length + 1)
  if !rest.isEmpty then return .alternation (first :: rest)
  let s ← get
  if s.numbered && !s.names.isEmpty then throw (.meaning .mixedReferences)
  return first

/-- Reads alternatives in which groups may nest to the given depth. -/
def expression : (depth : Nat) → Reader Expression
  | 0 => alternatives (fail .tooDeep)
  | depth + 1 => alternatives (groupWith (expression depth))

end GrammarScan.Reader

namespace GrammarScan

/-- How deep groups may nest. -/
def nestingLimit : Nat := 63

/-- A pattern that was read: its tree and the number of its groups. -/
structure ParsedPattern where
  tree : Expression
  groupCount : Nat
  deriving Inhabited, Repr

/-- Reads a whole pattern. -/
def ParsedPattern.ofText (pattern : List Char) : Except ExpressionFault ParsedPattern := do
  let (tree, s) ← (Reader.expression nestingLimit).run (.ofPattern pattern)
  if !s.rest.isEmpty then
    throw (.spelling s.position (.general "end of string not reached"))
  return ⟨tree, s.openedGroups⟩

end GrammarScan
