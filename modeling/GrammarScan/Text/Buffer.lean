import GrammarScan.Fault
import GrammarScan.Text.Lossy
import GrammarScan.Text.Offsets

/-!
# Buffers

A buffer is one line of text prepared for searching, with the map between its byte offsets and the
columns of an editor. Buffers are told apart by an identity and not by their text: two buffers of
the same text are two buffers. Identities are drawn one after another from a machine word, so they
only repeat when all of its values are used up.
-/

namespace GrammarScan

/-- The identity of a buffer. -/
structure BufferId where
  index : UInt64
  deriving DecidableEq, Inhabited, Repr

/-- The identity after a given one. -/
def BufferId.next (id : BufferId) : BufferId := ⟨id.index + 1⟩

/-- A line of text with its identity and its offset map. -/
structure Buffer where
  id : BufferId
  text : List Char
  codeUnit : CodeUnit
  unitLength : Nat
  offsets : OffsetMap
  deriving Repr

namespace Buffer

/-- Prepares a text whose columns count the given code unit. -/
def ofText (id : BufferId) (text : List Char) (unit : CodeUnit) : Buffer where
  id := id
  text := text
  codeUnit := unit
  unitLength := GrammarScan.unitLength unit text
  offsets := .ofText unit text

/-- Prepares a text given in UTF-16. -/
def ofUnits16 (id : BufferId) (units : List UInt16) : Except TextError Buffer :=
  (decode16 units).map fun text => ofText id text .utf16

/-- Prepares a text given in bytes, replacing what is not UTF-8. -/
def ofBytes (id : BufferId) (bytes : List UInt8) : Buffer := ofText id (decodeLossy bytes) .utf16

/-- The length of the text in bytes. -/
def byteLength (b : Buffer) : Nat := GrammarScan.byteLength b.text

/-- The code-unit offset at a byte offset, if that is a boundary. -/
def tryUnitOffset (b : Buffer) (byte : Nat) : Option Nat := b.offsets.unitAt? byte

/-- The byte offset at a code-unit offset, if that is a boundary. -/
def tryByteOffset (b : Buffer) (unit : Nat) : Option Nat := b.offsets.byteAt? unit

/-- The code-unit offset at a boundary. -/
def unitOffset (b : Buffer) (byte : Nat) : Except Fault Nat :=
  match b.tryUnitOffset byte with
  | some unit => .ok unit
  | none => .error (.byteOffset byte b.byteLength)

/-- The byte offset at a boundary. -/
def byteOffset (b : Buffer) (unit : Nat) : Except Fault Nat :=
  match b.tryByteOffset unit with
  | some byte => .ok byte
  | none => .error (.unitOffset unit b.unitLength)

end Buffer

end GrammarScan
