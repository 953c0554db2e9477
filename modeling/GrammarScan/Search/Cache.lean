import GrammarScan.Search.Matcher

/-!
# Matcher caches

Patterns that are put together while scanning are compiled when they are first asked for and kept
under their text, those that cannot be compiled as well: a failure leaves a notice once and is
answered again without one.
-/

namespace GrammarScan

/-- Matchers and failures under the patterns they come from, in the order of first request. -/
structure MatcherCache (E : RegexEngine := .builtIn) where
  options : Options
  entries : List (List Char × Except (PatternError E) (Matcher E))

/-- Why a search through a cache has no answer. -/
inductive CacheFailure (E : RegexEngine := .builtIn) where
  | pattern (error : PatternError E)
  | fault (fault : Fault)

namespace MatcherCache

variable {E : RegexEngine}

/-- A cache that has not been asked for anything. -/
def empty (options : Options) : MatcherCache E := ⟨options, []⟩

/-- The number of patterns asked for, those that failed included. -/
def size (c : MatcherCache E) : Nat := c.entries.length

/-- What is kept for a pattern. -/
def get? (c : MatcherCache E) (pattern : List Char) :
    Option (Except (PatternError E) (Matcher E)) :=
  c.entries.lookup pattern

/-- The cache with another matcher in the place of the one kept for a pattern. -/
def replace (c : MatcherCache E) (pattern : List Char) (m : Matcher E) : MatcherCache E :=
  { c with entries := c.entries.map fun (p, e) => if p = pattern then (p, .ok m) else (p, e) }

/-- The cache with nothing kept. -/
def clear (c : MatcherCache E) : MatcherCache E := .empty c.options

/-- The notice that a compilation leaves. -/
def compileNotices : Except (PatternError E) (Matcher E) → List Notice
  | .ok _ => []
  | .error error => [.patternFailed error.pattern error.message]

/-- The matcher for a pattern, compiled if it is asked for the first time. -/
def getOrCompile (c : MatcherCache E) (pattern : List Char) :
    Reply (MatcherCache E) (Except (PatternError E) (Matcher E)) :=
  match c.get? pattern with
  | some kept => { result := kept, state := c }
  | none =>
    let compiled := Matcher.ofPattern pattern c.options E
    { result := compiled
      state := { c with entries := c.entries ++ [(pattern, compiled)] }
      notices := compileNotices compiled }

/-- Asks for the matcher for a pattern and makes use of it; what that leaves is kept. -/
def useMatcher {Result : Type} (c : MatcherCache E) (pattern : List Char)
    (use : Matcher E → Reply (Matcher E) Result) :
    Reply (MatcherCache E) (Except (PatternError E) Result) :=
  let request := c.getOrCompile pattern
  match request.result with
  | .error error => request.map fun _ => .error error
  | .ok m => (((use m).map .ok).mapState (request.state.replace pattern ·)).after request

/-- Searches with the matcher for a pattern. -/
def search (c : MatcherCache E) (pattern : List Char) (buffer : Buffer) (position : Nat) :
    Reply (MatcherCache E) (Except (CacheFailure E) (Option Captures)) :=
  (c.useMatcher pattern (·.search buffer position)).map fun
    | .ok found => found.mapError .fault
    | .error error => .error (.pattern error)

end MatcherCache

end GrammarScan
