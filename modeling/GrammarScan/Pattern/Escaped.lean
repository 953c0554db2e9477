import GrammarScan.Pattern.Escape
import GrammarScan.Text.Bytes

/-!
# Escaping by offsets

A text can be escaped by its special characters, as a search finds them one after another. What
stands between two of them is cut out of the text by its offsets and is not looked at; each of them
is put behind a backslash. A text in which none is found stays as it is.
-/

namespace GrammarScan.Pattern

/-- A text that was escaped, and whether it was put together anew for that. -/
structure Escaped where
  text : List Char
  isRewritten : Bool
  deriving DecidableEq, Repr

/-- The ranges of the special characters in a text that begins at a byte offset. -/
def findSpecials (offset : Nat) : List Char → List Span
  | [] => []
  | c :: s =>
    let next := offset + c.utf8Size
    if isSpecial c then ⟨offset, next⟩ :: findSpecials next s else findSpecials next s

/-- The text from the offset `last` on, with a backslash before what stands in the given ranges.
There is no result if a range is no slice of the text. -/
def escapeFrom (source : List Char) (last : Nat) : List Span → Option (List Char)
  | [] => slice? source ⟨last, byteLength source⟩
  | range :: rest => do
    let between ← slice? source ⟨last, range.start⟩
    let special ← slice? source range
    let behind ← escapeFrom source range.stop rest
    return between ++ '\\' :: (special ++ behind)

/-- Escapes a text by the ranges of its special characters. -/
def escapeOnce (s : List Char) : Option Escaped :=
  match findSpecials 0 s with
  | [] => some ⟨s, false⟩
  | range :: rest => (escapeFrom s 0 (range :: rest)).map (⟨·, true⟩)

end GrammarScan.Pattern
