import GrammarScan.Captures

/-!
# Regex engines

Patterns are compiled and searched for by a regex engine. Matchers and what is built on them take
the engine as a parameter: they depend on none of its inner workings, and what they rely on is said
of the engine where it is needed. An engine is given the text of a pattern and limits on what it may
cost, and compiles the pattern or refuses it. A search sees the whole text and begins at a byte
offset; it ends with a match or without one, unless the engine gives it up.

Compiling and searching are functions: the same request is answered in the same way at all times.
-/

namespace GrammarScan

/-- Limits on what compiling and searching cost. A limit that is left out is the engine's own. -/
structure CostLimits where
  backtrackLimit : Option Nat := none
  programSizeLimit : Option Nat := none
  automatonCacheLimit : Option Nat := none
  deriving DecidableEq, Inhabited, Repr

/-- How a search ends: with a match, without one, given up for a cause, or with a fault of the
engine. -/
inductive Outcome (Cause : Type) where
  | found (captures : Captures)
  | absent
  | aborted (cause : Cause)
  | broken (fault : Fault)
  deriving DecidableEq, Inhabited, Repr

namespace Outcome

variable {Cause : Type}

/-- Whether a search came to a verdict: a match, or that there is none. -/
def isVerdict : Outcome Cause → Bool
  | .found _ | .absent => true
  | .aborted _ | .broken _ => false

/-- Whether a search was given up. -/
def isAborted : Outcome Cause → Bool
  | .aborted _ => true
  | .found _ | .absent | .broken _ => false

end Outcome

/-- A regex engine: what it compiles patterns to, how it searches for them, and how it words why a
pattern is refused or a search is given up. -/
structure RegexEngine where
  Regex : Type
  Refusal : Type
  Cause : Type
  compile : (pattern : List Char) → CostLimits → Except Refusal Regex
  groupCount : Regex → Nat
  find : Regex → (text : List Char) → (position : Nat) → Outcome Cause
  refusalMessage : Refusal → String
  causeMessage : Cause → String

end GrammarScan
