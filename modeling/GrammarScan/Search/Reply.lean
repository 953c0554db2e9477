import GrammarScan.Search.Options
import GrammarScan.Pattern.Rule

/-!
# Replies

What answers a request keeps state between requests: remembered searches and compiled patterns. A
reply gives the result together with the state after it, the number of searches that were answered
from memory, and notices of what the result alone does not tell.
-/

namespace GrammarScan

/-- How much a notice matters. -/
inductive Level where
  | warn
  | error
  deriving DecidableEq, Inhabited, Repr

/-- Something that happened on the way to a result. -/
inductive Notice where
  | patternFailed (pattern : List Char) (message : String)
  | searchAborted (pattern : List Char) (position : Nat) (cause : String)
  | offBoundary (position length : Nat)
  | unresolved (reference : Pattern.Unresolved)
  deriving DecidableEq, Repr

namespace Notice

/-- A position off the boundaries is a mistake of the caller; everything else may happen. -/
def level : Notice → Level
  | .offBoundary _ _ => .error
  | .patternFailed _ _ | .searchAborted _ _ _ | .unresolved _ => .warn

/-- The wording of a notice. -/
def message : Notice → String
  | .patternFailed _ message => message
  | .searchAborted pattern position cause =>
    s!"search for {quote pattern} at {position} aborted: {cause}"
  | .offBoundary position length =>
    s!"search position {position} is not a character boundary of a {length}-byte buffer"
  | .unresolved reference => reference.message

end Notice

/-- A result, the state after it, and what happened on the way. -/
structure Reply (State Result : Type) where
  result : Result
  state : State
  hits : Nat := 0
  notices : List Notice := []

namespace Reply

variable {State State' Result Result' : Type}

/-- The reply with its state seen as part of a larger one. -/
def mapState (f : State → State') (r : Reply State Result) : Reply State' Result :=
  ⟨r.result, f r.state, r.hits, r.notices⟩

/-- The reply with another result made from its own. -/
def map (f : Result → Result') (r : Reply State Result) : Reply State Result' :=
  ⟨f r.result, r.state, r.hits, r.notices⟩

/-- The reply with the hits and notices of an earlier one counted in. -/
def after (r : Reply State Result) (earlier : Reply State' Result') : Reply State Result :=
  ⟨r.result, r.state, earlier.hits + r.hits, earlier.notices ++ r.notices⟩

end Reply

end GrammarScan
