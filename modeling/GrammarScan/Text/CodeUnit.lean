import GrammarScan.Text.Bytes

/-!
# Code units

Editors count columns in UTF-16 units or in characters. A text is written in UTF-16 by giving each
character above the basic plane as a high and a low surrogate; reading fails at the first surrogate
without its partner and says where it stands.
-/

namespace GrammarScan

/-- What a column counts. -/
inductive CodeUnit where
  | utf16
  | utf32
  deriving DecidableEq, Inhabited, Repr

/-- The number of code units of one character. -/
def CodeUnit.width : CodeUnit → Char → Nat
  | .utf16, c => if c.toNat < 0x10000 then 1 else 2
  | .utf32, _ => 1

/-- Every character has at least one code unit. -/
theorem CodeUnit.width_pos (unit : CodeUnit) (c : Char) : 0 < unit.width c := by
  cases unit
  · simp only [CodeUnit.width]
    split <;> omega
  · exact Nat.one_pos

/-- The number of code units of a text. -/
def unitLength (unit : CodeUnit) : List Char → Nat
  | [] => 0
  | c :: s => unit.width c + unitLength unit s

/-- The UTF-16 units of one character. -/
def units16 (c : Char) : List UInt16 :=
  if c.toNat < 0x10000 then [c.toNat.toUInt16]
  else
    let offset := c.toNat - 0x10000
    [(0xD800 + offset / 0x400).toUInt16, (0xDC00 + offset % 0x400).toUInt16]

/-- The UTF-16 form of a text. -/
def encode16 (s : List Char) : List UInt16 := s.flatMap units16

/-- The first half of a pair. -/
def isHighSurrogate (u : UInt16) : Bool := 0xD800 ≤ u.toNat && u.toNat < 0xDC00

/-- The second half of a pair. -/
def isLowSurrogate (u : UInt16) : Bool := 0xDC00 ≤ u.toNat && u.toNat < 0xE000

/-- The character of a surrogate pair. -/
def ofSurrogates (high low : UInt16) : Char :=
  Char.ofNat (0x10000 + (high.toNat - 0xD800) * 0x400 + (low.toNat - 0xDC00))

/-- Units that are not the UTF-16 form of any text. -/
inductive TextError where
  | unpairedSurrogate (position : Nat)
  deriving DecidableEq, Repr

/-- The wording of a text error. -/
def TextError.message : TextError → String
  | .unpairedSurrogate position => s!"unpaired surrogate at UTF-16 offset {position}"

/-- Reads units one after another. A surrogate without its partner gives no character, and what
stands behind it is read as if it stood alone. -/
def readUnits16 : List UInt16 → List (Except UInt16 Char)
  | [] => []
  | u :: rest =>
    if isLowSurrogate u then .error u :: readUnits16 rest
    else if isHighSurrogate u then
      match rest with
      | [] => [.error u]
      | v :: rest =>
        if isLowSurrogate v then .ok (ofSurrogates u v) :: readUnits16 rest
        else .error u :: readUnits16 (v :: rest)
    else .ok (Char.ofNat u.toNat) :: readUnits16 rest

/-- Gathers what was read up to the first surrogate without its partner. The offset of each is
counted by the widths of the characters before it, from `position` on. -/
def gather16 (position : Nat) : List (Except UInt16 Char) → Except TextError (List Char)
  | [] => .ok []
  | .ok c :: rest => (gather16 (position + CodeUnit.utf16.width c) rest).map (c :: ·)
  | .error _ :: _ => .error (.unpairedSurrogate position)

/-- Reads a UTF-16 sequence. -/
def decode16 (units : List UInt16) : Except TextError (List Char) := gather16 0 (readUnits16 units)

end GrammarScan
