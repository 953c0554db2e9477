import GrammarScan.Search.Reply

/-!
# Matchers

A tokenizer asks for the same pattern on the same line many times, at positions that mostly move
forward. A matcher remembers its last search. The match found from a position is also the match from
every position up to where it starts, and where there is none from a position there is none from
any later one; so the memory answers such requests without the engine. Neither holds for a pattern
that is tied to the position of the search by `\G`; there the memory answers for that position
alone.
-/

namespace GrammarScan

/-- The last search of a matcher. -/
structure Memo where
  buffer : BufferId
  position : Nat
  result : Option Captures
  deriving DecidableEq, Repr

/-- Whether a remembered search answers a request. -/
def Memo.answers (memo : Memo) (buffer : BufferId) (position : Nat) (searchAnchored : Bool) :
    Bool :=
  memo.buffer = buffer &&
    if searchAnchored then memo.position = position
    else memo.position ≤ position && memo.result.all fun c => position ≤ c.start

/-- A compiled pattern with the memory of its last search. -/
structure Matcher (E : RegexEngine := .builtIn) where
  pattern : List Char
  regex : E.Regex
  searchAnchored : Bool
  memo : Option Memo

namespace Matcher

/-- Compiles a pattern. -/
def ofPattern (pattern : List Char) (options : Options) (E : RegexEngine := .builtIn) :
    Except (PatternError E) (Matcher E) := do
  let regex ← options.compile pattern E
  return ⟨pattern, regex, Pattern.hasSearchAnchor pattern, none⟩

variable {E : RegexEngine}

/-- The number of groups, the overall match included. -/
def groupCount (m : Matcher E) : Nat := E.groupCount m.regex

/-- The matcher without memory. -/
def reset (m : Matcher E) : Matcher E := { m with memo := none }

/-- What the engine finds, without memory. A search that is given up, and one from a position that
cuts a character, finds nothing and leaves a notice. -/
def searchAfresh (m : Matcher E) (buffer : Buffer) (position : Nat) :
    Except Fault (Option Captures) × List Notice :=
  if isBoundary buffer.text position then
    match E.find m.regex buffer.text position with
    | .found captures => (.ok (some captures), [])
    | .absent => (.ok none, [])
    | .aborted cause => (.ok none, [.searchAborted m.pattern position (E.causeMessage cause)])
    | .broken fault => (.error fault, [])
  else (.ok none, [.offBoundary position buffer.byteLength])

/-- The matcher after it searched: it remembers what was found, and after a fault what it remembered
before. -/
def remember (m : Matcher E) (buffer : Buffer) (position : Nat) :
    Except Fault (Option Captures) → Matcher E
  | .ok result => { m with memo := some ⟨buffer.id, position, result⟩ }
  | .error _ => m

/-- The first match from a byte offset on, from memory if that answers. -/
def search (m : Matcher E) (buffer : Buffer) (position : Nat) :
    Reply (Matcher E) (Except Fault (Option Captures)) :=
  match m.memo.filter (·.answers buffer.id position m.searchAnchored) with
  | some memo => { result := .ok memo.result, state := m, hits := 1 }
  | none =>
    let (result, notices) := m.searchAfresh buffer position
    { result, state := m.remember buffer position result, notices }

/-- The first match from a code-unit offset on. -/
def searchUnits (m : Matcher E) (buffer : Buffer) (position : Nat) :
    Reply (Matcher E) (Except Fault (Option Captures)) :=
  match buffer.byteOffset position with
  | .ok offset => m.search buffer offset
  | .error fault => { result := .error fault, state := m }

end Matcher

end GrammarScan
