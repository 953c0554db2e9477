import GrammarScan.Search.Matcher

/-!
# Scanners

A scanner offers several patterns at once and takes the match that starts first; of matches that
start together it takes that of the pattern listed first. Nothing can start before the position of
the search itself, so a match there ends the round, and the patterns behind it are not asked.
-/

namespace GrammarScan

/-- The pattern that won a round, by its place in the list, and its match. -/
structure ScanMatch where
  index : Nat
  captures : Captures
  deriving DecidableEq, Inhabited, Repr

/-- Patterns that are searched for together. -/
structure Scanner (E : RegexEngine := .builtIn) where
  matchers : List (Matcher E)

/-- Whether a match starts before all that was found so far. -/
def ScanMatch.precedes (found : ScanMatch) (best : Option ScanMatch) : Bool :=
  best.all fun b => found.captures.start < b.captures.start

variable {E : RegexEngine}

/-- Asks the matchers from place `index` on. A fault ends the round. -/
def scanFrom (buffer : Buffer) (position : Nat) : (index : Nat) → (best : Option ScanMatch) →
    List (Matcher E) → Reply (List (Matcher E)) (Except Fault (Option ScanMatch))
  | _, best, [] => { result := .ok best, state := [] }
  | index, best, m :: rest =>
    let reply := m.search buffer position
    let goOn (best : Option ScanMatch) :
        Reply (List (Matcher E)) (Except Fault (Option ScanMatch)) :=
      ((scanFrom buffer position (index + 1) best rest).after reply).mapState (reply.state :: ·)
    match reply.result with
    | .error fault => (reply.mapState (· :: rest)).map fun _ => .error fault
    | .ok none => goOn best
    | .ok (some captures) =>
      let found : ScanMatch := ⟨index, captures⟩
      if !found.precedes best then goOn best
      else if captures.start = position then
        (reply.mapState (· :: rest)).map fun _ => .ok (some found)
      else goOn (some found)

namespace Scanner

/-- Compiles patterns, up to the first that fails. -/
def ofPatterns (patterns : List (List Char)) (options : Options) (E : RegexEngine := .builtIn) :
    Except (PatternError E) (Scanner E) :=
  Scanner.mk <$> patterns.mapM fun p => Matcher.ofPattern p options E

/-- The number of patterns. -/
def size (s : Scanner E) : Nat := s.matchers.length

/-- The match that starts first from a byte offset on. -/
def findNext (s : Scanner E) (buffer : Buffer) (position : Nat) :
    Reply (Scanner E) (Except Fault (Option ScanMatch)) :=
  (scanFrom buffer position 0 none s.matchers).mapState Scanner.mk

end Scanner

end GrammarScan
