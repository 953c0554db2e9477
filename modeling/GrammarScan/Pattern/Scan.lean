import GrammarScan.Pattern.Anchor
import GrammarScan.Text.Bytes

/-!
# Going through a pattern once

Whether a pattern has a `\z` to expand or an anchor to spell is found by going through its
characters once. What stands before a `\z` is then cut out of the pattern by its offsets, from
where the last one ended, and what stands behind the last one is cut out at the end. A pattern of
which nothing was cut out stays as it is. Its four spellings are likewise made by going through it
once, side by side.
-/

namespace GrammarScan.Pattern

/-- The characters of a text, each with the byte offset where it starts. -/
def withOffsets (offset : Nat) : List Char → List (Nat × Char)
  | [] => []
  | c :: s => (offset, c) :: withOffsets (offset + c.utf8Size) s

/-- What going through a pattern has come to: the text put out so far, the offset behind the last
`\z` that was expanded, and whether an anchor was met. -/
structure Scan where
  output : List Char
  last : Nat
  anchored : Bool
  deriving DecidableEq, Repr

/-- Goes through the rest of a pattern. There is no result if a range is no slice of the pattern. -/
def Scan.advance (pattern : List Char) : Scan → List (Nat × Char) → Option Scan
  | scan, (offset, '\\') :: (_, c) :: rest =>
    if c = 'z' then do
      let between ← slice? pattern ⟨scan.last, offset⟩
      advance pattern ⟨scan.output ++ between ++ endAssertion, offset + 2, scan.anchored⟩ rest
    else advance pattern { scan with anchored := scan.anchored || c = 'A' || c = 'G' } rest
  | scan, _ :: rest => advance pattern scan rest
  | scan, [] => some scan

/-- A pattern that was gone through: its text, whether that was put together anew, and whether it
has an anchor. -/
structure Scanned where
  source : List Char
  isRewritten : Bool
  hasAnchor : Bool
  deriving DecidableEq, Repr

/-- The pattern at the end of a scan. -/
def Scan.finish (pattern : List Char) (scan : Scan) : Option Scanned :=
  if scan.last = 0 then some ⟨pattern, false, scan.anchored⟩
  else do
    let rest ← slice? pattern ⟨scan.last, byteLength pattern⟩
    return ⟨scan.output ++ rest, true, scan.anchored⟩

/-- Goes through a pattern once. -/
def scan (pattern : List Char) : Option Scanned := do
  let result ← Scan.advance pattern ⟨[], 0, false⟩ (withOffsets 0 pattern)
  result.finish pattern

namespace AnchorSpellings

/-- The four spellings with a text put behind each of them. -/
def extend (v : AnchorSpellings) (text : (atStart atSearch : Bool) → List Char) :
    AnchorSpellings where
  neither := v.neither ++ text false false
  searchOnly := v.searchOnly ++ text false true
  startOnly := v.startOnly ++ text true false
  both := v.both ++ text true true

/-- Goes through the rest of a pattern and puts what each spelling makes of it behind that
spelling. -/
def appendText (v : AnchorSpellings) : List Char → AnchorSpellings
  | '\\' :: c :: s =>
    (v.extend fun atStart atSearch =>
      if c = 'A' then anchorText atStart c
      else if c = 'G' then anchorText atSearch c
      else ['\\', c]).appendText s
  | c :: s => (v.extend fun _ _ => [c]).appendText s
  | [] => v

/-- The four spellings of a pattern that is gone through once. -/
def sideBySide (s : List Char) : AnchorSpellings := appendText ⟨[], [], [], []⟩ s

end AnchorSpellings

end GrammarScan.Pattern
