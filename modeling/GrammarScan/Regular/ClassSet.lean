import GrammarScan.Regular.Mode
import GrammarScan.Unicode.Property
import GrammarScan.Unicode.Word

/-!
# Character classes

The text of a character class stands for a set of characters. In brackets it lists characters,
ranges, classes with a name and nested brackets; two lists may be joined by `&&` (in both), `--`
(in the first only) or `~~` (in just one), which all bind alike and group to the left. When case is
ignored, sets are closed under case before they are negated or joined. Among ASCII characters alone
no set may reach beyond them at any level, so most negations are refused there.

A class also has a depth: brackets, joints, and lists of more than one item count one level each.
-/

namespace GrammarScan.Regular

/-- A set that was read, with the depth of its text. -/
structure DeepSet where
  set : CharSet
  depth : Nat
  deriving Inhabited, Repr

namespace ClassSet

/-- The ASCII characters. -/
def ascii : CharSet := .range '\x00' '\x7f'

/-- The class of a letter after a backslash, in its plain form. -/
def letterClass? (letter : Char) : Option CharSet :=
  match letter.toLower with
  | 'd' => some Unicode.decimalNumber
  | 's' => some Unicode.whiteSpace
  | 'w' => some Unicode.wordCharacter
  | _ => none

/-- The set of a letter after a backslash; a capital letter asks for all other characters, which
only exist among all characters. -/
def letterSet? (mode : Mode) (letter : Char) : Option CharSet := do
  let s ← letterClass? letter
  if mode.unicode then return if letter.isUpper then s.negate else s
  else if letter.isUpper then none
  else return s.inter ascii

/-- The classes of ASCII characters that have a name between colons. -/
def namedAscii : List (String × List (Char × Char)) := [
  ("alnum", [('0', '9'), ('A', 'Z'), ('a', 'z')]),
  ("alpha", [('A', 'Z'), ('a', 'z')]),
  ("ascii", [('\x00', '\x7f')]),
  ("blank", [('\t', '\t'), (' ', ' ')]),
  ("cntrl", [('\x00', '\x1f'), ('\x7f', '\x7f')]),
  ("digit", [('0', '9')]),
  ("graph", [('!', '~')]),
  ("lower", [('a', 'z')]),
  ("print", [(' ', '~')]),
  ("punct", [('!', '/'), (':', '@'), ('[', '\x60'), ('\x7b', '~')]),
  ("space", [('\t', '\t'), ('\n', '\n'), ('\x0b', '\x0b'), ('\x0c', '\x0c'), ('\r', '\r'),
    (' ', ' ')]),
  ("upper", [('A', 'Z')]),
  ("word", [('0', '9'), ('A', 'Z'), ('_', '_'), ('a', 'z')]),
  ("xdigit", [('0', '9'), ('A', 'F'), ('a', 'f')])]

/-- The ASCII class of a name. -/
def asciiClass? (name : List Char) : Option CharSet :=
  (namedAscii.find? fun entry => entry.1.toList = name).map fun entry =>
    .ofRanges (entry.2.map fun (lo, hi) => (lo.toNat, hi.toNat))

/-- Closes a set under case if case is ignored, then negates it if that is asked for. Nothing if the
set may only have ASCII characters and has others. -/
def finish? (mode : Mode) (negated : Bool) (s : CharSet) : Option CharSet :=
  let s := mode.fold s
  let s := if negated then s.negate else s
  if mode.unicode || (s.diff ascii).isEmpty then some s else none

/-- Cuts a text at the first place where the given characters stand. -/
def cutAt? (mark : List Char) : List Char → Option (List Char × List Char)
  | [] => none
  | c :: s =>
    if mark.isPrefixOf (c :: s) then some ([], (c :: s).drop mark.length)
    else (cutAt? mark s).map fun (front, back) => (c :: front, back)

/-- The set of a property between braces: a bare name, or a name and a value with a sign between
them. All signs mean the same. -/
def property? (body : List Char) : Option CharSet :=
  match cutAt? ['!', '='] body <|> cutAt? [':'] body <|> cutAt? ['='] body with
  | some (name, value) => Unicode.propertyValue? name value
  | none => Unicode.propertyNamed? body

/-- Reads the body of a property up to its closing brace. Blanks are left out, and `comment` tells
that a comment has begun. -/
def propertyBody? (mode : Mode) (comment : Bool) : List Char → Option (List Char × List Char)
  | [] => none
  | c :: rest =>
    if comment then propertyBody? mode (c ≠ '\n') rest
    else if mode.extended && Unicode.isWhiteSpace c then propertyBody? mode false rest
    else if mode.extended && c = '#' then propertyBody? mode true rest
    else if c = '\x7d' then some ([], rest)
    else (propertyBody? mode false rest).map fun (body, rest) => (c :: body, rest)

/-- The set of a property escape, from behind its letter on, and what follows it. Properties are of
all characters. -/
def propertyEscape? (mode : Mode) (negated : Bool) (text : List Char) :
    Option (CharSet × List Char) :=
  if !mode.unicode then none
  else
    match mode.skipBlanks text with
    | '\x7b' :: rest =>
      (propertyBody? mode false rest).bind fun (body, rest) =>
        ((property? body).bind (finish? mode negated)).map (·, rest)
    | c :: rest =>
      if c = '\\' then none
      else ((Unicode.propertyNamed? [c]).bind (finish? mode negated)).map (·, rest)
    | [] => none

/-- The characters that a backslash takes for what they are. -/
def isEscapable (c : Char) : Bool :=
  c.toNat ≤ 0x7F && !c.isAlphanum && c ≠ '<' && c ≠ '>'

/-- One item of a class: a character, which may begin or end a range, or a set. -/
inductive Item where
  | character (c : Char)
  | set (s : CharSet)

/-- The set of an item. Without Unicode a class has ASCII characters only. -/
def Item.toSet? (mode : Mode) : Item → Option CharSet
  | .character c => if mode.unicode || c.toNat ≤ 0x7F then some (.single c) else none
  | .set s => some s

/-- Reads a set that is written with a backslash, from behind the letter `c` after it on. -/
def escapedSet? (mode : Mode) (c : Char) (rest : List Char) : Option (CharSet × List Char) :=
  if c.toLower = 'p' then propertyEscape? mode (c = 'P') rest
  else (letterSet? mode c).map (·, rest)

/-- Reads an escape, from behind its backslash on. -/
def escape? (mode : Mode) : List Char → Option (Item × List Char)
  | [] => none
  | c :: rest =>
    if isEscapable c then some (.character c, rest)
    else (escapedSet? mode c rest).map fun (s, rest) => (.set s, rest)

/-- Reads an item. -/
def item? (mode : Mode) : List Char → Option (Item × List Char)
  | [] => none
  | c :: rest => if c = '\\' then escape? mode rest else some (.character c, rest)

/-- The character that tells whether a minus sign makes a range: the first one behind it that is not
blank. Of a comment just its sign and the white space behind that are passed over. -/
def behindMinus? (mode : Mode) (text : List Char) : Option Char :=
  if !mode.extended then text.head?
  else
    match text.dropWhile Unicode.isWhiteSpace with
    | '#' :: rest => (rest.dropWhile Unicode.isWhiteSpace).head?
    | rest => rest.head?

/-- Reads an item or a range. A minus sign makes a range unless it is followed by another one or by
the closing bracket. -/
def rangeOrItem? (mode : Mode) (text : List Char) : Option (CharSet × List Char) := do
  let (first, rest) ← item? mode text
  let rest := mode.skipBlanks rest
  let s ← first.toSet? mode
  match rest with
  | [] => none
  | '-' :: next =>
    if (behindMinus? mode next).any ([']', '-'].contains ·) then return (s, rest)
    else
      let (last, rest) ← item? mode (mode.skipBlanks next)
      let _ ← last.toSet? mode
      match first, last with
      | .character lo, .character hi => if lo ≤ hi then return (.range lo hi, rest) else none
      | _, _ => none
  | rest => return (s, rest)

/-- Reads a class with a name between colons, from behind its bracket on: whether it is negated, and
its characters. -/
def asciiItem? (text : List Char) : Option (Bool × CharSet × List Char) := do
  let ':' :: rest := text | none
  let negated := ['^'].isPrefixOf rest
  let (name, rest) ← cutAt? [':'] (if negated then rest.drop 1 else rest)
  let ']' :: rest := rest | none
  let s ← asciiClass? name
  return (negated, s, rest)

/-- How two lists of a class are joined. -/
inductive Joint where
  | inter
  | diff
  | symmDiff

/-- The joint that a doubled sign stands for. -/
def joint? : List Char → Option (Joint × List Char)
  | '&' :: '&' :: rest => some (.inter, rest)
  | '-' :: '-' :: rest => some (.diff, rest)
  | '~' :: '~' :: rest => some (.symmDiff, rest)
  | _ => none

/-- The join of two sets. -/
def Joint.apply (mode : Mode) (j : Joint) (s t : CharSet) : CharSet :=
  let s := mode.fold s
  let t := mode.fold t
  match j with
  | .inter => s.inter t
  | .diff => s.diff t
  | .symmDiff => s.symmDiff t

/-- A bracket that is open: its sign, the lists joined so far with the joint that waits for the next
list, and the list that is being read with its number of items. -/
structure Level where
  negated : Bool
  joined : Option (DeepSet × Joint)
  list : DeepSet
  items : Nat

namespace Level

/-- A bracket with an empty list. -/
def opened (negated : Bool) (joined : Option (DeepSet × Joint)) : Level :=
  ⟨negated, joined, ⟨.empty, 0⟩, 0⟩

/-- The bracket with one more item in its list. -/
def add (l : Level) (s : DeepSet) : Level :=
  { l with
    list := ⟨l.list.set.union s.set, max l.list.depth s.depth⟩
    items := l.items + 1 }

/-- The list that is being read. -/
def current (l : Level) : DeepSet :=
  if 1 < l.items then { l.list with depth := l.list.depth + 1 } else l.list

/-- The set of a bracket whose lists are all read, before its sign counts. -/
def total (mode : Mode) (l : Level) : DeepSet :=
  match l.joined with
  | none => l.current
  | some (s, j) => ⟨j.apply mode s.set l.current.set, max s.depth l.current.depth + 1⟩

/-- The set of a bracket that closes. -/
def close? (mode : Mode) (l : Level) : Option DeepSet :=
  let total := l.total mode
  (finish? mode l.negated total.set).map (⟨·, total.depth + 1⟩)

end Level

/-- The leading minus signs of a list, and what is left. -/
def dashes (mode : Mode) : (fuel : Nat) → Level → List Char → Level × List Char
  | fuel + 1, l, '-' :: rest => dashes mode fuel (l.add ⟨.single '-', 0⟩) (mode.skipBlanks rest)
  | _, l, rest => (l, rest)

/-- Takes up what a fresh bracket may begin with: a sign, minus signs, and then a closing bracket
if nothing came before it. -/
def opening? (mode : Mode) (text : List Char) : Option (Level × List Char) :=
  let text := mode.skipBlanks text
  let negated := ['^'].isPrefixOf text
  let text := if negated then mode.skipBlanks (text.drop 1) else text
  match dashes mode text.length (.opened negated none) text with
  | (_, []) => none
  | (l, ']' :: rest) =>
    if l.items = 0 then
      let rest := mode.skipBlanks rest
      if rest.isEmpty then none else some (l.add ⟨.single ']', 0⟩, rest)
    else some (l, ']' :: rest)
  | opened => some opened

/-- Reads a bracket to its end; `outer` are the brackets around it. Every step takes up text, so
`fuel` is enough if it is more than the length of the text. -/
def brackets? (mode : Mode) :
    (fuel : Nat) → (outer : List Level) → Level → List Char → Option (DeepSet × List Char)
  | 0, _, _, _ => none
  | fuel + 1, outer, level, text =>
    match mode.skipBlanks text with
    | [] => none
    | c :: rest =>
      if c = '[' then
        match asciiItem? rest with
        | some (negated, s, rest) =>
          match finish? mode negated s with
          | some s => brackets? mode fuel outer (level.add ⟨s, 0⟩) rest
          | none => none
        | none =>
          match opening? mode rest with
          | some (inner, rest) => brackets? mode fuel (level :: outer) inner rest
          | none => none
      else if c = ']' then
        match level.close? mode, outer with
        | none, _ => none
        | some s, [] => some (s, rest)
        | some s, above :: outer => brackets? mode fuel outer (above.add s) rest
      else
        match joint? (c :: rest) with
        | some (j, rest) =>
          brackets? mode fuel outer (.opened level.negated (some (level.total mode, j))) rest
        | none =>
          match rangeOrItem? mode (c :: rest) with
          | some (s, rest) => brackets? mode fuel outer (level.add ⟨s, 0⟩) rest
          | none => none

/-- The set that the text of a class stands for, and the text behind the bracket that closes it.
Nothing if the text is no class. -/
def ofText? (mode : Mode) (text : List Char) : Option (DeepSet × List Char) :=
  match text with
  | '[' :: rest => do
    let (level, rest) ← opening? mode rest
    brackets? mode (rest.length + 1) [] level rest
  | '\\' :: rest => do
    let (.set s, rest) ← escape? mode rest | none
    return (⟨s, 0⟩, rest)
  | _ => none

end ClassSet

end GrammarScan.Regular
