import GrammarScan.Unicode.BinaryProperty
import GrammarScan.Unicode.LaterCharacters

/-!
# Word characters

The classes of characters that patterns and identifiers are built from: word characters, decimal
digits, letters and numbers, and the characters that can be shown as they are.
-/

namespace GrammarScan.Unicode

/-- Word characters: alphabetic characters, marks, decimal digits, connectors and joiners. -/
def wordCharacter : CharSet :=
  .unions [alphabetic, mark, decimalNumber, connectorPunctuation, joinControl]

/-- Whether a character belongs to words. -/
def isWord (c : Char) : Bool := wordCharacter.contains c

/-- Alphabetic characters, the later ones included. -/
def anyAlphabetic : CharSet := alphabetic.union laterAlphabetic

/-- Alphabetic characters and numbers of any kind, the later ones included. -/
def anyAlphanumeric : CharSet := .unions [anyAlphabetic, number, laterNumber]

/-- Whether a character is alphabetic. -/
def isAlphabetic (c : Char) : Bool := anyAlphabetic.contains c

/-- Whether a character is alphabetic or a number. -/
def isAlphanumeric (c : Char) : Bool := anyAlphanumeric.contains c

/-- Characters with a shape of their own, the later ones included: assigned ones that are no
control, format or private characters, no separators but the space, and not to be ignored where they
cannot be shown. -/
def printable : CharSet :=
  .unions [
    assigned.diff (.unions [control, format, privateUse, separator, defaultIgnorableCodePoint]),
    .single ' ', laterPrintable]

/-- Characters that join the one before them, the later ones included. The marks that Katakana of
half the width take for voicing stand for themselves. -/
def joining : CharSet :=
  (graphemeExtend.union laterGraphemeExtend).diff ⟨[(0xFF9E, 0xFF9F)]⟩

/-- Whether a character can be shown as it is, without joining the one before it. -/
def standsAlone (c : Char) : Bool := printable.contains c && !joining.contains c

end GrammarScan.Unicode
