import GrammarScan.Pattern.Reference

/-!
# Replacing references by their offsets

A pattern can be gone through by its escapes, as a search finds them one after another: a backslash
with the whole run of digits behind it, or else with the one character behind it. A search goes on
where the escape before it ended. What stands between two references is then cut out of the pattern
by its offsets and is not looked at, whether there are other escapes in it or not.
-/

namespace GrammarScan.Pattern

/-- An escape that was found, with the range of its digits if it is a reference. -/
structure FoundEscape where
  whole : Span
  digits : Option Span
  deriving DecidableEq, Repr

/-- The escape at the front of a text that begins at a byte offset. -/
def escapeAt? (offset : Nat) : List Char → Option FoundEscape
  | '\\' :: c :: s =>
    if c.isDigit then
      let stop := offset + 1 + byteLength ((c :: s).takeWhile Char.isDigit)
      some ⟨⟨offset, stop⟩, some ⟨offset + 1, stop⟩⟩
    else some ⟨⟨offset, offset + 1 + c.utf8Size⟩, none⟩
  | _ => none

/-- The escapes of a text that begins at a byte offset, without those that start before the offset
`resume`. -/
def findEscapes (resume offset : Nat) : List Char → List FoundEscape
  | [] => []
  | c :: s =>
    match if resume ≤ offset then escapeAt? offset (c :: s) else none with
    | some found => found :: findEscapes found.whole.stop (offset + c.utf8Size) s
    | none => findEscapes resume (offset + c.utf8Size) s

/-- The pattern from the offset `last` on, with the references among the given escapes replaced.
There is no result if a range is no slice of the pattern. -/
def spliceFrom (source line : List Char) (captures : Captures) (last : Nat) :
    List FoundEscape → Option (Except ReferenceError (List Char))
  | [] => (slice? source ⟨last, byteLength source⟩).map .ok
  | found :: rest =>
    match found.digits with
    | none => spliceFrom source line captures last rest
    | some range =>
      match slice? source ⟨last, found.whole.start⟩, slice? source range with
      | some between, some digits =>
        match captured line captures digits with
        | .ok text =>
          (spliceFrom source line captures found.whole.stop rest).map
            (Except.map (between ++ text ++ ·))
        | .error fault => some (.error fault)
      | _, _ => none

/-- The pattern with its references replaced, put together from its slices. -/
def splice (line : List Char) (captures : Captures) (source : List Char) :
    Option (Except ReferenceError (List Char)) :=
  spliceFrom source line captures 0 (findEscapes 0 0 source)

end GrammarScan.Pattern
