import GrammarScan.Unicode.CaseFolding
import GrammarScan.Unicode.WhiteSpace

/-!
# Modes of plain notation

The flags under which plain notation is read. A group can set them for its body, and a group without
a body sets them for what follows it.
-/

namespace GrammarScan.Regular

/-- The flags in force. Without `unicode` classes are those of ASCII characters. -/
structure Mode where
  ignoreCase : Bool := false
  multiLine : Bool := false
  dotAll : Bool := false
  swapGreed : Bool := false
  unicode : Bool := true
  carriageReturn : Bool := false
  extended : Bool := false
  deriving DecidableEq, Inhabited, Repr

namespace Mode

/-- The mode with the flag of a letter set or cleared, if the letter is a flag. -/
def set? (mode : Mode) (letter : Char) (value : Bool) : Option Mode :=
  match letter with
  | 'i' => some { mode with ignoreCase := value }
  | 'm' => some { mode with multiLine := value }
  | 's' => some { mode with dotAll := value }
  | 'U' => some { mode with swapGreed := value }
  | 'u' => some { mode with unicode := value }
  | 'R' => some { mode with carriageReturn := value }
  | 'x' => some { mode with extended := value }
  | _ => none

/-- The ASCII letters of a set in both cases, beside the set. -/
def asciiFold (s : CharSet) : CharSet :=
  let letters (lo hi : Char) : CharSet := s.inter (.range lo hi)
  let shift (step : Int) (t : CharSet) : CharSet :=
    ⟨t.ranges.map fun r => ((r.1 + step).toNat, (r.2 + step).toNat)⟩
  .unions [s, shift 32 (letters 'A' 'Z'), shift (-32) (letters 'a' 'z')]

/-- The characters that a set stands for when case is ignored or not. -/
def fold (mode : Mode) (s : CharSet) : CharSet :=
  if !mode.ignoreCase then s else if mode.unicode then Unicode.foldClosure s else asciiFold s

/-- Drops white space and line comments in front of a text; `comment` tells that a comment has
begun. -/
def dropBlanks (comment : Bool) : List Char → List Char
  | [] => []
  | c :: rest =>
    if comment then dropBlanks (c ≠ '\n') rest
    else if Unicode.isWhiteSpace c then dropBlanks false rest
    else if c = '#' then dropBlanks true rest
    else c :: rest

/-- What is left of a text behind the blanks, if the mode has any. -/
def skipBlanks (mode : Mode) (text : List Char) : List Char :=
  if mode.extended then dropBlanks false text else text

end Mode

end GrammarScan.Regular
