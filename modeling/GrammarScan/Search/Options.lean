import GrammarScan.Regex
import GrammarScan.Text.Quoted

/-!
# Compiling the patterns of a grammar

Grammar patterns are written for line anchors: `^` and `$` hold at every line unless a caller asks
for anchors that hold at the ends of the text alone. A pattern that cannot be compiled is reported
with its text as the caller gave it.
-/

namespace GrammarScan

/-- What a caller may choose about compiling. -/
structure Options extends CostLimits where
  singleLineAnchors : Bool := false
  deriving DecidableEq, Inhabited, Repr

/-- What the engine is given for a pattern: the flag for line anchors in front, unless anchors are
to hold at the ends of the text alone. -/
def Options.engineText (o : Options) (pattern : List Char) : List Char :=
  if o.singleLineAnchors then pattern else "(?m)".toList ++ pattern

/-- A pattern that the engine refuses. -/
structure PatternError (E : RegexEngine := .builtIn) where
  pattern : List Char
  cause : E.Refusal

/-- The wording of a pattern error. -/
def PatternError.message {E : RegexEngine} (e : PatternError E) : String :=
  s!"parsing regex pattern {quote e.pattern} failed: {E.refusalMessage e.cause}"

/-- Compiles a pattern. -/
def Options.compile (o : Options) (pattern : List Char) (E : RegexEngine := .builtIn) :
    Except (PatternError E) E.Regex :=
  match E.compile (o.engineText pattern) o.toCostLimits with
  | .ok regex => .ok regex
  | .error cause => .error ⟨pattern, cause⟩

end GrammarScan
