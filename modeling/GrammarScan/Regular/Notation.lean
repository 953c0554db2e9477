import GrammarScan.Regular.ClassSet
import GrammarScan.Regular.Tree

/-!
# Plain notation

Text in plain notation stands for a plain expression. It is read from left to right, with the groups
that are open kept on a stack; a group without a body changes the mode for what follows it in the
group around it. Groups that capture are numbered from 1 on.

Items have a depth: groups, repetitions, alternatives, sequences of more than one item and the
levels of classes count one each. Text that nests too deeply is refused.
-/

namespace GrammarScan.Regular

/-- How deep plain notation may nest. -/
def depthLimit : Nat := 250

/-- The characters without the line feed, and without the carriage return if that cuts lines too. -/
def Mode.anyChar (mode : Mode) : CharSet :=
  if mode.dotAll then .all
  else if mode.carriageReturn then (CharSet.union (.single '\n') (.single '\r')).negate
  else (CharSet.single '\n').negate

/-- The start of the text or of a line. -/
def Mode.start (mode : Mode) : Place :=
  if !mode.multiLine then .textStart
  else if mode.carriageReturn then .returnLineStart else .lineStart

/-- The end of the text or of a line. -/
def Mode.stop (mode : Mode) : Place :=
  if !mode.multiLine then .textEnd
  else if mode.carriageReturn then .returnLineEnd else .lineEnd

/-- A character, in either case if case is ignored. -/
def ofChar (mode : Mode) (c : Char) : Regular :=
  if mode.ignoreCase then .ofSet (mode.fold (.single c)) !mode.unicode else .literal [c]

/-- Whether the bounds of a quantifier are in range and in order. -/
def boundsInOrder (least : Nat) (most : Option Nat) : Bool :=
  least < UInt32.size && most.all fun n => n < UInt32.size && least ≤ n

namespace Notation

/-- Something that was read: its expression, its depth, and whether it may be repeated. -/
structure Item where
  body : Regular
  depth : Nat
  repeatable : Bool := true
  deriving Inhabited, Repr

/-- The depth of items one after another. -/
def sequenceDepth (depths : List Nat) : Nat :=
  depths.foldl max 0 + if 1 < depths.length then 1 else 0

/-- Items one after another. -/
def Item.sequence (items : List Item) : Item :=
  { body := seq (items.map Item.body), depth := sequenceDepth (items.map Item.depth) }

/-- Items as alternatives. -/
def Item.alternatives (items : List Item) : Item :=
  match items with
  | [item] => item
  | items => { body := choice (items.map Item.body), depth := sequenceDepth (items.map Item.depth) }

/-- A group that is open: its number if it captures, the mode around it, its branches and the items
of its last branch, the latest first. -/
structure Open where
  index : Option Nat
  around : Mode
  branches : List Item
  items : List Item

namespace Open

/-- The group with one more item. -/
def add (g : Open) (item : Item) : Open := { g with items := item :: g.items }

/-- The group with its last branch closed. -/
def nextBranch (g : Open) : Open :=
  { g with branches := .sequence g.items.reverse :: g.branches, items := [] }

/-- All that the group holds. -/
def body (g : Open) : Item := .alternatives g.nextBranch.branches.reverse

/-- The group as an item. -/
def close (g : Open) : Item :=
  let inner := g.body
  let body :=
    match g.index with
    | some index => .group index inner.body
    | none => inner.body
  { body, depth := inner.depth + 1 }

end Open

/-- Text that is being read: what is left, the mode, the groups that are open, and the number of
groups that capture with the names among them. -/
structure Reading where
  rest : List Char
  mode : Mode
  inner : Open
  outer : List Open
  opened : Nat
  names : List (List Char)

namespace Reading

/-- The beginning of a text. -/
def ofText (text : List Char) : Reading where
  rest := text
  mode := {}
  inner := ⟨none, {}, [], []⟩
  outer := []
  opened := 0
  names := []

/-- Takes up an item. -/
def add (r : Reading) (item : Item) (rest : List Char) : Reading :=
  { r with inner := r.inner.add item, rest }

/-- Opens a group whose body is read in the given mode. -/
def openGroup (r : Reading) (index : Option Nat) (mode : Mode) (rest : List Char) : Reading :=
  { r with rest, mode, inner := ⟨index, r.mode, [], []⟩, outer := r.inner :: r.outer }

/-- Opens a group that captures. -/
def openCapture (r : Reading) (rest : List Char) : Reading :=
  let index := r.opened + 1
  { r with opened := index }.openGroup (some index) r.mode rest

/-- Closes the innermost group, if one is open. -/
def closeGroup? (r : Reading) (rest : List Char) : Option Reading :=
  match r.outer with
  | [] => none
  | around :: outer =>
    some { r with rest, mode := r.inner.around, inner := around.add r.inner.close, outer }

end Reading

/-- Whether a character may stand in the name of a group, at its beginning or later. -/
def isNameChar (first : Bool) (c : Char) : Bool :=
  c = '_' ||
    if first then Unicode.isAlphabetic c
    else Unicode.isAlphanumeric c || c = '.' || c = '[' || c = ']'

/-- Opens a group whose name, which no other group has, is read to its closing sign. -/
def openNamed? (r : Reading) (text : List Char) : Option Reading :=
  match ClassSet.cutAt? ['>'] text with
  | none => none
  | some (name, rest) =>
    if name.head?.any (isNameChar true) && name.tail.all (isNameChar false) &&
        !r.names.contains name then
      some ({ r with names := name :: r.names }.openCapture rest)
    else none

/-- Reads flags up to the sign that ends them. No flag and no minus sign stands twice, and a minus
sign is followed by a flag. -/
def flags? (seen : List Char) : Mode → List Char → Option (Mode × Char × List Char)
  | _, [] => none
  | mode, c :: rest =>
    if c = ':' || c = ')' then
      if seen.head? = some '-' then none else some (mode, c, rest)
    else if seen.contains c then none
    else if c = '-' then flags? (c :: seen) mode rest
    else (mode.set? c !(seen.contains '-')).bind fun mode => flags? (c :: seen) mode rest

/-- Reads what stands behind an opening parenthesis: a mode, a group without a name that does not
capture, or a group that does. Look-around is not plain. -/
def group? (r : Reading) (text : List Char) : Option Reading :=
  match r.mode.skipBlanks text with
  | '?' :: '=' :: _ | '?' :: '!' :: _ | '?' :: '<' :: '=' :: _ | '?' :: '<' :: '!' :: _ => none
  | '?' :: 'P' :: '<' :: rest | '?' :: '<' :: rest => openNamed? r rest
  | '?' :: ')' :: _ => none
  | '?' :: rest =>
    match flags? [] r.mode rest with
    | none => none
    | some (mode, c, rest) =>
      if c = ':' then some (r.openGroup none mode rest)
      else some ({ r with mode }.add { body := .empty, depth := 0, repeatable := false } rest)
  | rest => some (r.openCapture rest)

/-- Reads a decimal number with blanks around it; between the digits blanks may stand where the mode
has them. -/
def decimalDigits (mode : Mode) : (fuel : Nat) → List Char → List Char × List Char
  | fuel + 1, c :: rest =>
    if c.isDigit then
      let (digits, rest) := decimalDigits mode fuel (mode.skipBlanks rest)
      (c :: digits, rest)
    else ([], c :: rest)
  | _, rest => ([], rest)

/-- A number, if there is one, and what follows it. -/
def decimal? (mode : Mode) (text : List Char) : Option (Option Nat × List Char) :=
  let text := text.dropWhile Unicode.isWhiteSpace
  let (digits, rest) := decimalDigits mode text.length text
  let rest := mode.skipBlanks (rest.dropWhile Unicode.isWhiteSpace)
  let value := digits.foldl (fun n d => n * 10 + (d.toNat - '0'.toNat)) 0
  if digits.isEmpty then some (none, rest)
  else if value < UInt32.size then some (some value, rest)
  else none

/-- Reads the bounds of a quantifier, from behind its opening brace on. -/
def bounds? (mode : Mode) (text : List Char) : Option (Nat × Option Nat × List Char) := do
  let (least, rest) ← decimal? mode (mode.skipBlanks text)
  match rest with
  | ',' :: rest =>
    match mode.skipBlanks rest with
    | '\x7d' :: rest => return (← least, none, rest)
    | rest =>
      let least ← least
      let (most, rest) ← decimal? mode rest
      let '\x7d' :: rest := rest | none
      return (least, some (← most), rest)
  | '\x7d' :: rest => return (← least, ← least, rest)
  | _ => none

/-- Repeats the last item. A question mark behind a quantifier makes it lazy. -/
def repeat? (r : Reading) (least : Nat) (most : Option Nat) (rest : List Char) : Option Reading :=
  match r.inner.items with
  | [] => none
  | item :: items =>
    if !item.repeatable || !boundsInOrder least most then none
    else
      let lazily := rest.head? = some '?'
      let rest := if lazily then rest.drop 1 else rest
      let body := times least most (lazily == r.mode.swapGreed) item.body
      some { r with
        rest
        inner := { r.inner with items := { body, depth := item.depth + 1 } :: items } }

/-- Reads an escape, from behind its backslash on. -/
def escape? (mode : Mode) : List Char → Option (Item × List Char)
  | [] => none
  | c :: rest =>
    if ClassSet.isEscapable c then some ({ body := ofChar mode c, depth := 0 }, rest)
    else (ClassSet.escapedSet? mode c rest).map fun (s, rest) =>
      ({ body := .ofSet s !mode.unicode, depth := 0 }, rest)

/-- Reads one thing; `text` is what is left of it behind its first character. -/
def step? (r : Reading) (c : Char) (text : List Char) : Option Reading :=
  let plain (body : Regular) : Option Reading := some (r.add { body, depth := 0 } text)
  match c with
  | '(' => group? r text
  | ')' => r.closeGroup? text
  | '|' => some { r with inner := r.inner.nextBranch, rest := text }
  | '[' =>
    (ClassSet.ofText? r.mode ('[' :: text)).map fun (s, rest) =>
      r.add { body := .ofSet s.set !r.mode.unicode, depth := s.depth } rest
  | '?' => repeat? r 0 (some 1) text
  | '*' => repeat? r 0 none text
  | '+' => repeat? r 1 none text
  | '\x7b' =>
    (bounds? r.mode text).bind fun (least, most, rest) =>
      repeat? r least most (r.mode.skipBlanks rest)
  | '\\' => (escape? r.mode text).map fun (item, rest) => r.add item rest
  | '.' => if r.mode.unicode then plain (.ofSet r.mode.anyChar false) else none
  | '^' => plain (.place r.mode.start)
  | '$' => plain (.place r.mode.stop)
  | c => plain (ofChar r.mode c)

/-- Reads to the end. Each step takes up text, so `fuel` is enough if it is more than the length of
the text. -/
def readAll? : (fuel : Nat) → Reading → Option Reading
  | 0, _ => none
  | fuel + 1, r =>
    match r.mode.skipBlanks r.rest with
    | [] => some r
    | c :: text => (step? r c text).bind (readAll? fuel)

/-- The plain expression that a text stands for. -/
def parse? (text : List Char) : Option Regular := do
  let r ← readAll? (text.length + 1) (.ofText text)
  let total := r.inner.body
  if r.outer.isEmpty && total.depth ≤ depthLimit then return total.body else none

end Notation

end GrammarScan.Regular
