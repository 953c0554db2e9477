import GrammarScan.Search.Cache
import GrammarScan.Pattern.Rule
import GrammarScan.Line.Tokens

/-!
# Blocks over several lines

A block rule has a pattern that begins a block and one that ends it. The end pattern may refer to
what the beginning captured, so it is put together anew for every block. A block stays open from one
line to the next. The anchors of a pattern hold at the start of the first line and where the match
before ended.
-/

namespace GrammarScan

open Pattern (RulePattern RuleId)

/-- Which end of a block a match is. -/
inductive BlockSide where
  | opening
  | closing
  deriving DecidableEq, Inhabited, Repr

/-- A match of a block rule: its side, the pattern that was searched for, and its groups in code
units. -/
structure BlockEvent where
  side : BlockSide
  pattern : List Char
  units : List (Option Span)
  deriving DecidableEq, Inhabited, Repr

/-- The two patterns of a block. -/
structure BlockRule where
  opening : RulePattern
  closing : RulePattern
  deriving DecidableEq, Repr

/-- What goes on from one match to the next: the matchers in use, and the pattern that closes the
block if one is open. -/
structure BlockState (E : RegexEngine := .builtIn) where
  cache : MatcherCache E
  closing : Option (List Char)

namespace BlockRule

variable {E : RegexEngine}

/-- A rule from the patterns of its two sides. -/
def ofPatterns (opening closing : List Char) : BlockRule where
  opening := .ofText opening ⟨1⟩
  closing := .ofText closing ⟨2⟩

/-- The side that comes next, and the pattern to search for. -/
def expected (rule : BlockRule) (closing : Option (List Char)) (atStart atSearch : Bool) :
    BlockSide × List Char :=
  match closing with
  | none => (.opening, rule.opening.resolveAnchors atStart atSearch)
  | some pattern =>
    (.closing, (RulePattern.ofText pattern rule.closing.ruleId).resolveAnchors atStart atSearch)

/-- The pattern that closes the block after a match, with the notice of a reference that could not
be replaced. -/
def closingAfter (rule : BlockRule) (side : BlockSide) (buffer : Buffer) (captures : Captures) :
    Option (List Char) × List Notice :=
  match side with
  | .opening =>
    let resolution := rule.closing.resolveReferences buffer.text captures
    (some resolution.text, resolution.fault?.toList.map .unresolved)
  | .closing => (none, [])

/-- At most `count` matches in a line from a position on; `last` is where the match before
ended. -/
def eventsFrom (rule : BlockRule) (atStart : Bool) (buffer : Buffer) :
    (count position : Nat) → (last : Option Nat) → BlockState E →
      Reply (BlockState E) (Except (CacheFailure E) (List BlockEvent))
  | 0, _, _, state => { result := .ok [], state }
  | count + 1, position, last, state =>
    if buffer.byteLength < position then { result := .ok [], state }
    else
      let (side, pattern) := rule.expected state.closing atStart (last = some position)
      let found := state.cache.search pattern buffer position
      let reply := found.mapState fun cache => { state with cache }
      match found.result with
      | .error failure => reply.map fun _ => .error failure
      | .ok none => reply.map fun _ => .ok []
      | .ok (some captures) =>
        match captures.toCodeUnits buffer with
        | .error fault => reply.map fun _ => .error (.fault fault)
        | .ok units =>
          let (closing, notices) := rule.closingAfter side buffer captures
          let next := nextPosition buffer.text position captures.stop
          let rest := rule.eventsFrom atStart buffer count next (some captures.stop)
            ⟨found.state, closing⟩
          let rest := { rest with notices := notices ++ rest.notices }
          (rest.map (·.map (⟨side, pattern, units⟩ :: ·))).after reply

/-- At most `count` matches in each line, the first of which is the first line if `atStart`. -/
def linesFrom (rule : BlockRule) (count : Nat) : (atStart : Bool) → (id : BufferId) →
    List (List Char) → BlockState E →
      Reply (BlockState E) (Except (CacheFailure E) (List (List BlockEvent)))
  | _, _, [], state => { result := .ok [], state }
  | atStart, id, line :: rest, state =>
    let events := rule.eventsFrom atStart (.ofText id line .utf16) count 0 none state
    match events.result with
    | .error failure => events.map fun _ => .error failure
    | .ok here =>
      ((rule.linesFrom count false id.next rest events.state).map (·.map (here :: ·))).after events

/-- At most `count` matches in each line of a document. -/
def lines (rule : BlockRule) (count : Nat) (document : List (List Char)) (options : Options)
    (E : RegexEngine := .builtIn) :
    Reply (BlockState E) (Except (CacheFailure E) (List (List BlockEvent))) :=
  rule.linesFrom count true ⟨0⟩ document ⟨.empty options, none⟩

end BlockRule

end GrammarScan
