/-!
# Anchors

Patterns may be tied to a place: `\A` to the start of the document, `\G` to the end of the match
before, `\z` to the end of the text. The engine knows the first two by its own start and search
position only, so a caller who knows that the place is not there has the anchor replaced by a
character that no edited text holds. The third becomes an assertion of the engine. A backslash is
always read together with the character after it.
-/

namespace GrammarScan.Pattern

/-- An assertion for the end of the text that does not hold after a line feed. -/
def endAssertion : List Char := "$(?!\\n)(?<!\\n)".toList

/-- The stand-in for an anchor that cannot hold. -/
def neverOccurs : Char := Char.ofNat 0xFFFF

/-- The pattern with every `\z` replaced by the assertion for it. -/
def expandEnds : List Char → List Char
  | '\\' :: c :: s => if c = 'z' then endAssertion ++ expandEnds s else '\\' :: c :: expandEnds s
  | c :: s => c :: expandEnds s
  | [] => []

/-- Whether a backslash stands before a character of the given kind. -/
def hasEscape (kind : Char → Bool) : List Char → Bool
  | '\\' :: c :: s => kind c || hasEscape kind s
  | _ :: s => hasEscape kind s
  | [] => false

/-- Whether the end of the text is asked for by `\z`. -/
def hasEnd (s : List Char) : Bool := hasEscape (· = 'z') s

/-- Whether the pattern is tied to the document start or to the match before. -/
def hasAnchor (s : List Char) : Bool := hasEscape (fun c => c = 'A' || c = 'G') s

/-- Whether the pattern is tied to the position where a search starts. -/
def hasSearchAnchor (s : List Char) : Bool := hasEscape (· = 'G') s

/-- An anchor where it may hold, and the stand-in where it cannot. -/
def anchorText (allowed : Bool) (anchor : Char) : List Char :=
  if allowed then ['\\', anchor] else [neverOccurs]

/-- The pattern for one attempt, which may or may not be at the document start and at the end of
the match before. -/
def spellAnchors (atStart atSearch : Bool) : List Char → List Char
  | '\\' :: c :: s =>
    (if c = 'A' then anchorText atStart c
      else if c = 'G' then anchorText atSearch c
      else ['\\', c]) ++ spellAnchors atStart atSearch s
  | c :: s => c :: spellAnchors atStart atSearch s
  | [] => []

/-- The spellings of a pattern for the four kinds of attempt. -/
structure AnchorSpellings where
  neither : List Char
  searchOnly : List Char
  startOnly : List Char
  both : List Char
  deriving DecidableEq, Repr

/-- The four spellings of a pattern. -/
def AnchorSpellings.ofText (s : List Char) : AnchorSpellings where
  neither := spellAnchors false false s
  searchOnly := spellAnchors false true s
  startOnly := spellAnchors true false s
  both := spellAnchors true true s

/-- The spelling for one kind of attempt. -/
def AnchorSpellings.get (v : AnchorSpellings) : (atStart atSearch : Bool) → List Char
  | false, false => v.neither
  | false, true => v.searchOnly
  | true, false => v.startOnly
  | true, true => v.both

end GrammarScan.Pattern
