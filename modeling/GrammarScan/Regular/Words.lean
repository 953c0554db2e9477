import GrammarScan.Regular.Tree

/-!
# Patterns that are words

A pattern without groups and places may match no more than a few words. If those can be looked for
as they are, no automaton is needed; nor is it for a choice between a great many words. The words
are gathered from the tree in the order of preference; a word that is only the beginning of a match
is not exact, and a pattern that can begin in too many ways has no words. What is gathered is then
cut down to what is quick to look for, and the pattern is a few words if that leaves all of them
exact.
-/

namespace GrammarScan.Regular

/-- How a match may begin; an exact word is all of the match. -/
structure Word where
  bytes : List UInt8
  exact : Bool
  deriving DecidableEq, Inhabited, Repr

/-- The ways to begin a match, the preferred first, unless they are too many. -/
abbrev Words := Option (List Word)

/-- The greatest number of characters of a set that are gathered as words. -/
def classLimit : Nat := 10

/-- The greatest number of copies that a repetition is followed for. -/
def copyLimit : Nat := 10

/-- The greatest length of a word. -/
def lengthLimit : Nat := 100

/-- The greatest number of words. -/
def wordLimit : Nat := 250

namespace Word

/-- The word as the beginning of a match only. -/
def asBeginning (w : Word) : Word := { w with exact := false }

/-- At most the first bytes of a word. -/
def keep (count : Nat) (w : Word) : Word :=
  if w.bytes.length ≤ count then w else ⟨w.bytes.take count, false⟩

end Word

/-- Joins neighbours of one spelling behind the first word. -/
def dedupFrom (current : Word) : List Word → List Word
  | [] => [current]
  | w :: rest =>
    if w.bytes = current.bytes then dedupFrom { w with exact := w.exact && current.exact } rest
    else current :: dedupFrom w rest

/-- Joins neighbours of one spelling. -/
def dedup : List Word → List Word
  | [] => []
  | w :: rest => dedupFrom w rest

namespace Words

/-- The empty word alone. -/
def nothing : Words := some [⟨[], true⟩]

/-- The words as beginnings of a match only. -/
def asBeginnings (ws : Words) : Words := ws.map (·.map Word.asBeginning)

/-- At most the first bytes of each word. -/
def keep (count : Nat) (ws : Words) : Words := ws.map (·.map (Word.keep count))

/-- Whether nothing can be appended to any of the words. -/
def areBeginnings (ws : Words) : Bool := ws.all (·.all fun w => !w.exact)

/-- The words of a sequence whose second part has no words. -/
def crossAny (ws : List Word) : Words :=
  if ws.any (·.bytes.isEmpty) then none else asBeginnings (some ws)

/-- The words of a sequence of two parts. -/
def cross : Words → Words → Words
  | none, _ => none
  | some ws, none => crossAny ws
  | some ws, some vs =>
    if wordLimit < ws.length * vs.length then crossAny ws
    else
      keep lengthLimit <| some <| dedup <| ws.flatMap fun w =>
        if w.exact then vs.map fun v => ⟨w.bytes ++ v.bytes, v.exact⟩ else [w]

/-- The words of a choice between two branches. -/
def union : Words → Words → Words
  | some ws, some vs =>
    if ws.length + vs.length ≤ wordLimit then some (dedup (ws ++ vs))
    else
      let ws := dedup (ws.map (Word.keep 4))
      let vs := dedup (vs.map (Word.keep 4))
      if ws.length + vs.length ≤ wordLimit then some (dedup (ws ++ vs)) else none
  | _, _ => none

/-- The words of a number of copies one after another. -/
def copies (ws : Words) : (count : Nat) → Words
  | 0 => nothing
  | count + 1 => let front := copies ws count; if front.areBeginnings then front else front.cross ws

/-- The words of the characters of a set. -/
def ofSet (s : CharSet) : Words :=
  let count := (s.ranges.map fun r => r.2 - r.1 + 1).foldl (· + ·) 0
  if classLimit < count then none
  else
    some <| s.ranges.flatMap fun r =>
      (List.range (r.2 - r.1 + 1)).map fun i =>
        ⟨String.utf8EncodeChar (Char.ofNat (r.1 + i)), true⟩

end Words

mutual

/-- The words of an expression. -/
def words : Regular → Words
  | .empty | .place _ => Words.nothing
  | .literal text => Words.keep lengthLimit (some [⟨text.flatMap String.utf8EncodeChar, true⟩])
  | .set s _ => Words.ofSet s
  | .group _ body => words body
  | .iteration 0 most greedy body =>
    let ws := if most = some 1 then words body else (words body).asBeginnings
    if greedy then ws.union Words.nothing else Words.nothing.union ws
  | .iteration least most _ body =>
    let ws := (words body).copies (min least copyLimit)
    if most = some least && least ≤ copyLimit then ws else ws.asBeginnings
  | .concat parts => wordsOfSeq Words.nothing parts
  | .alternation branches => wordsOfChoice (some []) branches

/-- The words of a sequence that begins with given words. -/
def wordsOfSeq (front : Words) : List Regular → Words
  | [] => front
  | part :: rest =>
    if front.areBeginnings then front else wordsOfSeq (front.cross (words part)) rest

/-- The words of a choice after given words. -/
def wordsOfChoice (before : Words) : List Regular → Words
  | [] => before
  | branch :: rest => wordsOfChoice (before.union (words branch)) rest

end

/-- The words that are not cut short by a preferred one. -/
def minimizeAfter (kept : List Word) : List Word → List Word
  | [] => kept.reverse
  | w :: rest =>
    if kept.any fun k => k.bytes.isPrefixOf w.bytes then minimizeAfter kept rest
    else minimizeAfter (w :: kept) rest

/-- The words that are not cut short by a preferred one. -/
def minimize (ws : List Word) : List Word := minimizeAfter [] ws

/-- The common beginning of two words. -/
def commonBytes : List UInt8 → List UInt8 → List UInt8
  | a :: as, b :: bs => if a = b then a :: commonBytes as bs else []
  | _, _ => []

/-- The common beginning of all words. -/
def sharedBytes : List Word → List UInt8
  | [] => []
  | w :: rest => rest.foldl (fun bytes v => commonBytes bytes v.bytes) w.bytes

/-- Whether a byte is frequent in texts. -/
def isFrequent (b : UInt8) : Bool :=
  0xC0 ≤ b || "\n\r (),-./0129:_abcdefghilmnoprstuvxy|".toList.any fun c => c.toNat = b.toNat

/-- Whether a byte is so frequent that nothing is gained by looking for it. -/
def isUbiquitous (b : UInt8) : Bool :=
  0xC0 ≤ b || " et".toList.any fun c => c.toNat = b.toNat

/-- Words cut to fewer bytes as long as there are too many of them. -/
def shorten : List (Nat × Nat) → List Word → List Word
  | [], ws => ws
  | (count, limit) :: rest, ws =>
    if ws.length ≤ limit then ws else shorten rest (minimize (ws.map (Word.keep count)))

/-- Whether words that were cut short are quicker to look for than the exact words. -/
def isQuicker (ws : List Word) : Bool :=
  ws.all (fun w => 2 < w.bytes.length) && ws.length ≤ 64

/-- Whether words can be looked for as they are. A common beginning that is rare or long is looked
for instead of the words, and so are shorter words where there are too many. -/
def areFew (ws : List Word) : Bool :=
  let least := minimize ws
  let shared := sharedBytes least
  let isExact := least.all (·.exact)
  let fixed (count : Nat) : Bool := least.all fun w => w.exact && w.bytes.length ≤ count
  if ws.isEmpty || ws.any (·.bytes.isEmpty) then false
  else if 1 < ws.length && 0 < shared.length && shared.length ≤ 3 &&
      !(shared.head?.any isFrequent) then fixed 1
  else if 4 < shared.length || (1 < shared.length && !(isExact && least.length ≤ 16)) then
    fixed shared.length
  else
    let short := shorten [(5, 10), (4, 10), (3, 64), (2, 64), (1, 10)] least
    let poor := short.any fun w => w.bytes.isEmpty || w.bytes.length = 1 && w.bytes.all isUbiquitous
    isExact && (short.all (·.exact) || poor || !isQuicker short)

mutual

/-- Whether there is a place in an expression. -/
def hasPlace : Regular → Bool
  | .place _ => true
  | .group _ body => hasPlace body
  | .iteration _ _ _ body => hasPlace body
  | .concat parts => anyHasPlace parts
  | .alternation branches => anyHasPlace branches
  | .empty | .literal _ | .set _ _ => false

/-- Whether there is a place in an expression of a list. -/
def anyHasPlace : List Regular → Bool
  | [] => false
  | r :: rest => hasPlace r || anyHasPlace rest

end

/-- Whether an expression is a few words that can be looked for as they are. -/
def isFewWords (r : Regular) : Bool :=
  r.groupBound = 0 && !r.hasPlace && (words r).any areFew

/-- The number of alternatives from which on words are looked for as they are in any case. -/
def manyWords : Nat := 3000

/-- Whether an expression is a literal. -/
def isLiteral : Regular → Bool
  | .literal _ => true
  | _ => false

/-- Whether an expression is a choice between a great many words. -/
def isManyWords : Regular → Bool
  | .alternation branches => manyWords ≤ branches.length && branches.all isLiteral
  | _ => false

/-- Whether an expression is words that are looked for as they are, without an automaton. -/
def isWords (r : Regular) : Bool := r.isFewWords || r.isManyWords

end GrammarScan.Regular
