import GrammarScan.Pattern.Anchor
import GrammarScan.Pattern.Reference
import GrammarScan.Text.Quoted

/-!
# Rule patterns

A rule pattern is prepared once: its `\z` is expanded, its anchor spellings are made if it has any
anchor, and it is noted whether it refers to the captures of another pattern. For one attempt the
references are replaced first and the anchors are spelled afterwards.
-/

namespace GrammarScan.Pattern

/-- The number of the grammar rule that a pattern belongs to. -/
structure RuleId where
  index : Nat
  deriving DecidableEq, Inhabited, Repr

/-- A pattern of a grammar rule, prepared for use. -/
structure RulePattern where
  authored : List Char
  source : List Char
  ruleId : RuleId
  hadEnd : Bool
  spellings : Option AnchorSpellings
  hasReferences : Bool
  deriving DecidableEq, Repr

/-- A replacement of references that was not made, with the pattern that was kept for it. -/
structure Unresolved where
  ruleId : RuleId
  source : List Char
  cause : ReferenceError
  deriving DecidableEq, Repr

/-- The wording of a replacement that was not made. -/
def Unresolved.message (u : Unresolved) : String :=
  s!"rule RuleId({u.ruleId.index}): keeping {quote u.source} unresolved: {u.cause.message}"

/-- A pattern after its references were looked at: kept as it was, perhaps because of a fault, or
put together anew. -/
inductive Resolution where
  | kept (source : List Char) (fault : Option Unresolved)
  | spliced (text : List Char)
  deriving DecidableEq, Repr

/-- The pattern of a resolution. -/
def Resolution.text : Resolution → List Char
  | .kept source _ => source
  | .spliced text => text

/-- Whether the pattern is the one that was there before. -/
def Resolution.isKept : Resolution → Bool
  | .kept _ _ => true
  | .spliced _ => false

/-- The fault that a resolution passed over. -/
def Resolution.fault? : Resolution → Option Unresolved
  | .kept _ fault => fault
  | .spliced _ => none

namespace RulePattern

/-- Prepares a pattern as written in a grammar. -/
def ofText (pattern : List Char) (ruleId : RuleId) : RulePattern :=
  let source := expandEnds pattern
  { authored := pattern
    source := source
    ruleId := ruleId
    hadEnd := hasEnd pattern
    spellings := if hasAnchor pattern then some (.ofText source) else none
    hasReferences := Pattern.hasReferences source }

/-- The same rule with another pattern; the pattern that it has already changes nothing. -/
def withSource (p : RulePattern) (pattern : List Char) : RulePattern :=
  if p.source = pattern then p else ofText pattern p.ruleId

/-- Whether the pattern is tied to the document start or to the match before. -/
def hasAnchor (p : RulePattern) : Bool := p.spellings.isSome

/-- The spelling for one attempt. -/
def resolveAnchors (p : RulePattern) (atStart atSearch : Bool) : List Char :=
  match p.spellings with
  | some spellings => spellings.get atStart atSearch
  | none => p.source

/-- The pattern with its references replaced, or the fault of the first that cannot be. -/
def tryResolveReferences (p : RulePattern) (line : List Char) (captures : Captures) :
    Except ReferenceError (List Char) :=
  resolve line captures p.source

/-- The pattern with its references replaced. A pattern without any, or with a reference that
cannot be replaced, is kept. -/
def resolveReferences (p : RulePattern) (line : List Char) (captures : Captures) : Resolution :=
  if p.hasReferences then
    match p.tryResolveReferences line captures with
    | .ok text => .spliced text
    | .error cause => .kept p.source (some ⟨p.ruleId, p.source, cause⟩)
  else .kept p.source none

/-- The pattern for one attempt: references first, then anchors. -/
def effective (p : RulePattern) (line : List Char) (captures : Captures) (atStart atSearch : Bool) :
    Resolution :=
  match p.resolveReferences line captures with
  | .kept _ fault => .kept (p.resolveAnchors atStart atSearch) fault
  | .spliced text => .spliced ((ofText text p.ruleId).resolveAnchors atStart atSearch)

end RulePattern

end GrammarScan.Pattern
