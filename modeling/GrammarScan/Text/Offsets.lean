import GrammarScan.Text.CodeUnit

/-!
# Offset maps

Byte offsets and code-unit offsets of one text are matched up by two tables, each indexed by one
kind of offset and holding the other; entries inside a character stay empty. In a text of ASCII
characters alone the two kinds coincide, and the tables are left out.
-/

namespace GrammarScan

/-- Both directions between the byte offsets and the code-unit offsets of a text. -/
structure OffsetTable where
  toUnit : Array (Option Nat)
  toByte : Array (Option Nat)
  deriving DecidableEq, Repr

/-- The map of a text: the identity up to its length, or two tables. -/
inductive OffsetMap where
  | identity (length : Nat)
  | table (entries : OffsetTable)
  deriving DecidableEq, Repr

/-- The entries of a table for a text whose characters are `width` wide in the offsets that index
the table and `size` wide in those that it holds, which begin at `first`: where a character starts
and where the text ends there is an offset. -/
def offsetEntries (width size : Char → Nat) (first : Nat) : List Char → List (Option Nat)
  | [] => [some first]
  | c :: s =>
    some first :: (List.replicate (width c - 1) none ++ offsetEntries width size (first + size c) s)

/-- The tables of a text. -/
def OffsetTable.ofText (unit : CodeUnit) (s : List Char) : OffsetTable where
  toUnit := (offsetEntries Char.utf8Size unit.width 0 s).toArray
  toByte := (offsetEntries unit.width Char.utf8Size 0 s).toArray

/-- Whether every character of a text is an ASCII character. -/
def isAscii (s : List Char) : Bool := s.all fun c => c.toNat < 0x80

/-- The map of a text. -/
def OffsetMap.ofText (unit : CodeUnit) (s : List Char) : OffsetMap :=
  if isAscii s then .identity (byteLength s) else .table (.ofText unit s)

/-- The code-unit offset at a byte offset that is a boundary. -/
def OffsetMap.unitAt? : OffsetMap → Nat → Option Nat
  | .identity length, byte => if byte ≤ length then some byte else none
  | .table entries, byte => (entries.toUnit[byte]?).join

/-- The byte offset at a code-unit offset that starts a character or ends the text. -/
def OffsetMap.byteAt? : OffsetMap → Nat → Option Nat
  | .identity length, unit => if unit ≤ length then some unit else none
  | .table entries, unit => (entries.toByte[unit]?).join

end GrammarScan
