import GrammarScan.Captures
import GrammarScan.Pattern.Escape

/-!
# Back-references between patterns

The pattern that ends a block may refer to what the pattern that began it captured: a backslash and
a run of digits stands for the text of that group, escaped so that it matches itself. The digits
are all taken, leading zeros included; a group that took no part stands for nothing. The first
reference that cannot be replaced, from the left, is the fault of the whole.
-/

namespace GrammarScan.Pattern

/-- Why a reference cannot be replaced. -/
inductive ReferenceError where
  | indexOverflow (digits : List Char)
  | invalidRange (group : Nat) (range : Span) (lineLength : Nat)
  deriving DecidableEq, Repr

/-- The wording of a reference error. -/
def ReferenceError.message : ReferenceError → String
  | .indexOverflow digits => s!"back-reference token \\{String.ofList digits} is out of range"
  | .invalidRange group range lineLength =>
    s!"capture {group} spans {range.start}..{range.stop}, which is not a valid slice of a " ++
      s!"{lineLength}-byte line"

/-- The number of offsets and indices that a machine word tells apart. -/
def wordSize : Nat := UInt64.size

/-- The value of a run of decimal digits. -/
def digitsValue (digits : List Char) : Nat :=
  digits.foldl (fun n d => n * 10 + (d.toNat - '0'.toNat)) 0

/-- The text that a reference stands for. -/
def captured (line : List Char) (captures : Captures) (digits : List Char) :
    Except ReferenceError (List Char) :=
  let group := digitsValue digits
  if wordSize ≤ group then .error (.indexOverflow digits)
  else
    match captures.get? group with
    | none => .ok []
    | some range =>
      match slice? line range with
      | some text => .ok (escape text)
      | none => .error (.invalidRange group range (byteLength line))

/-- What has been read of an escape: nothing, its backslash, or the backslash and some digits. -/
inductive EscapeState where
  | outside
  | backslash
  | digits (reversed : List Char)

/-- The pattern with its references replaced, from a point inside or outside an escape on. -/
def resolveFrom (line : List Char) (captures : Captures) :
    EscapeState → List Char → Except ReferenceError (List Char)
  | .outside, [] => .ok []
  | .outside, c :: s =>
    if c = '\\' then resolveFrom line captures .backslash s
    else (resolveFrom line captures .outside s).map (c :: ·)
  | .backslash, [] => .ok ['\\']
  | .backslash, c :: s =>
    if c.isDigit then resolveFrom line captures (.digits [c]) s
    else (resolveFrom line captures .outside s).map ('\\' :: c :: ·)
  | .digits reversed, [] => captured line captures reversed.reverse
  | .digits reversed, c :: s =>
    if c.isDigit then resolveFrom line captures (.digits (c :: reversed)) s
    else do
      let text ← captured line captures reversed.reverse
      let rest ←
        if c = '\\' then resolveFrom line captures .backslash s
        else (resolveFrom line captures .outside s).map (c :: ·)
      return text ++ rest

/-- The pattern with its references replaced by what they stand for. -/
def resolve (line : List Char) (captures : Captures) (s : List Char) :
    Except ReferenceError (List Char) :=
  resolveFrom line captures .outside s

/-- Whether the pattern refers to the captures of another one. -/
def hasReferences : List Char → Bool
  | '\\' :: c :: s => c.isDigit || hasReferences s
  | _ :: s => hasReferences s
  | [] => false

end GrammarScan.Pattern
