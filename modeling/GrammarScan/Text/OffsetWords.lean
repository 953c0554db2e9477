import GrammarScan.Text.Offsets

/-!
# Offset tables in machine words

The two tables of a text as they lie in memory. An entry is a machine word, and the greatest word
stands where a table has no offset. Both are filled in one pass over the characters: the table for
bytes has its length from the start and is written where a character begins, the other one grows by
an offset and the padding behind it.
-/

namespace GrammarScan

/-- The word that stands in a table where there is no offset. -/
def unmapped : UInt64 := UInt64.ofNat (UInt64.size - 1)

/-- The length of the longest text that memory can hold, in bytes. -/
def longestText : Nat := UInt64.size / 2 - 1

/-- The number of code units of a text and its tables, as far as they are filled. -/
structure OffsetWords where
  unitLength : UInt64
  toUnit : Array UInt64
  toByte : Array UInt64
  deriving DecidableEq, Repr

namespace OffsetWords

/-- Fills the tables from byte offset `byte` on, where the given characters are left. -/
def fill (unit : CodeUnit) (words : OffsetWords) (byte : UInt64) : List Char → OffsetWords
  | [] =>
    { words with
      toUnit := words.toUnit.setIfInBounds byte.toNat words.unitLength
      toByte := words.toByte.push byte }
  | c :: s =>
    let width := unit.width c
    fill unit
      { unitLength := words.unitLength + UInt64.ofNat width
        toUnit := words.toUnit.setIfInBounds byte.toNat words.unitLength
        toByte := words.toByte.push byte ++ Array.replicate (width - 1) unmapped }
      (byte + UInt64.ofNat c.utf8Size) s

/-- The tables of a text. -/
def ofText (unit : CodeUnit) (s : List Char) : OffsetWords :=
  fill unit ⟨0, .replicate (byteLength s + 1) unmapped, #[]⟩ 0 s

/-- The code-unit offset at a byte offset that is a boundary. -/
def unitAt? (words : OffsetWords) (byte : UInt64) : Option UInt64 :=
  words.toUnit[byte.toNat]?.filter (· ≠ unmapped)

/-- The byte offset at a code-unit offset that starts a character or ends the text. -/
def byteAt? (words : OffsetWords) (unit : UInt64) : Option UInt64 :=
  words.toByte[unit.toNat]?.filter (· ≠ unmapped)

end OffsetWords

end GrammarScan
