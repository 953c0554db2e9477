import GrammarScan.Text.Bytes

/-!
# Faults of the caller

Some requests are wrong in a way that has no answer: offsets that cut a character, captures without
an overall match, ranges that run backwards. A fault ends the request; what the request was made to
stays as it was.
-/

namespace GrammarScan

/-- Why a request has no answer. -/
inductive Fault where
  | byteOffset (offset length : Nat)
  | unitOffset (offset length : Nat)
  | noOverallMatch
  | reversedRange
  | reversedReference
  deriving DecidableEq, Repr

/-- The wording of a fault. A group that is referred to while its end lies before its start has
none. -/
def Fault.message : Fault → String
  | .byteOffset offset length =>
    s!"byte offset {offset} is not a character boundary of a {length}-byte buffer"
  | .unitOffset offset length =>
    s!"code-unit offset {offset} is not a character boundary of a {length}-unit buffer"
  | .noOverallMatch => "the overall match must be present"
  | .reversedRange => "capture ranges must not be reversed"
  | .reversedReference => ""

end GrammarScan
