import GrammarScan.Expression.Shape

/-!
# Constructs in expressions

Two constructs of a pattern tell about the search itself: the one that asks for the position where
the search began, and the one that moves the start of the match. Each is written as a letter behind
a backslash, by which they are asked for here.
-/

namespace GrammarScan.Expression

/-- Trees are built from their parts. -/
theorem partsInduction {motive : Expression → Prop} (empty : motive .empty)
    (anyChar : ∀ lineFeed, motive (.anyChar lineFeed))
    (assertion : ∀ condition, motive (.assertion condition))
    (literal : ∀ c ignoreCase, motive (.literal c ignoreCase))
    (charClass : ∀ text ignoreCase, motive (.charClass text ignoreCase))
    (concat : ∀ parts : List Expression, (∀ e ∈ parts, motive e) → motive (.concat parts))
    (alternation : ∀ branches : List Expression, (∀ e ∈ branches, motive e) →
      motive (.alternation branches))
    (group : ∀ index body, motive body → motive (.group index body))
    (lookAround : ∀ side negated body, motive body → motive (.lookAround side negated body))
    (iteration : ∀ least most greedy body, motive body → motive (.iteration least most greedy body))
    (backReference : ∀ group, motive (.backReference group))
    (atomic : ∀ body, motive body → motive (.atomic body)) (keepOut : motive .keepOut)
    (searchStart : motive .searchStart) (groupMatched : ∀ group, motive (.groupMatched group))
    (conditional : ∀ test yes no, motive test → motive yes → motive no →
      motive (.conditional test yes no)) (e : Expression) : motive e :=
  @Expression.rec motive (fun es => ∀ e ∈ es, motive e) empty anyChar assertion literal charClass
    concat alternation group lookAround iteration backReference atomic keepOut searchStart
    groupMatched conditional (by simp) (fun _ _ he hes => List.forall_mem_cons.mpr ⟨he, hes⟩) e

mutual

/-- Whether a tree has a construct about the search that is written as the given letter. -/
def uses (letter : Char) : Expression → Bool
  | .keepOut => letter = 'K'
  | .searchStart => letter = 'G'
  | .concat parts => anyUses letter parts
  | .alternation branches => anyUses letter branches
  | .group _ body => uses letter body
  | .lookAround _ _ body => uses letter body
  | .iteration _ _ _ body => uses letter body
  | .atomic body => uses letter body
  | .conditional test yes no => uses letter test || uses letter yes || uses letter no
  | .empty | .anyChar _ | .assertion _ | .literal _ _ | .charClass _ _ | .backReference _
  | .groupMatched _ => false

/-- Whether a tree of a list has such a construct. -/
def anyUses (letter : Char) : List Expression → Bool
  | [] => false
  | e :: rest => uses letter e || anyUses letter rest

/-- Whether a tree moves the start of the match to where a look-behind reads. It may stand inside of
a look-behind itself. -/
def movesStartBack (behind : Bool) : Expression → Bool
  | .keepOut => behind
  | .concat parts => anyMovesStartBack behind parts
  | .alternation branches => anyMovesStartBack behind branches
  | .group _ body => movesStartBack behind body
  | .lookAround side _ body => movesStartBack (side = .behind || behind) body
  | .iteration _ _ _ body => movesStartBack behind body
  | .atomic body => movesStartBack behind body
  | .conditional test yes no =>
    movesStartBack behind test || movesStartBack behind yes || movesStartBack behind no
  | .empty | .anyChar _ | .assertion _ | .literal _ _ | .charClass _ _ | .backReference _
  | .searchStart | .groupMatched _ => false

/-- Whether a tree of a list does so. -/
def anyMovesStartBack (behind : Bool) : List Expression → Bool
  | [] => false
  | e :: rest => movesStartBack behind e || anyMovesStartBack behind rest

end

/-- No tree of a list moves the start back just if none of its members does. -/
theorem anyMovesStartBack_eq_false_iff {behind : Bool} {es : List Expression} :
    anyMovesStartBack behind es = false ↔ ∀ e ∈ es, e.movesStartBack behind = false := by
  induction es with
  | nil => simp [anyMovesStartBack]
  | cons e es ih => simp [anyMovesStartBack, ih]

/-- No tree of a list uses a letter just if none of its members does. -/
theorem anyUses_eq_false_iff {letter : Char} {es : List Expression} :
    anyUses letter es = false ↔ ∀ e ∈ es, e.uses letter = false := by
  induction es with
  | nil => simp [anyUses]
  | cons e es ih => simp [anyUses, ih]

/-- A group of a list of trees is a group of one of them. -/
theorem mem_groupsOf {index : Nat} {es : List Expression} :
    index ∈ groupsOf es ↔ ∃ e ∈ es, index ∈ e.groups := by
  induction es with
  | nil => simp [groupsOf]
  | cons e es ih => simp [groupsOf, ih]

end GrammarScan.Expression
