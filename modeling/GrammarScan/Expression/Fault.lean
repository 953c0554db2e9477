/-!
# Faults of a pattern

A pattern can be wrong in its notation, at a byte offset of it, or in what it asks for: references
to groups that are not there, a look-behind without a length, or a part that the automaton for
plain parts refuses.
-/

namespace GrammarScan

/-- What is wrong with the notation of a pattern. -/
inductive NotationFault where
  | general (expected : String)
  | unclosedParenthesis
  | tooDeep
  | notRepeatable
  | trailingBackslash
  | invalidEscape (escape : List Char)
  | unclosedProperty
  | invalidHex
  | invalidCodePoint
  | invalidClass
  | unknownFlag (flag : List Char)
  | cannotDisableUnicode
  | invalidReference
  | invalidGroupName
  | unknownGroupName (name : List Char)
  deriving BEq, DecidableEq, Inhabited, Repr

/-- The wording of a fault of notation. -/
def NotationFault.message : NotationFault → String
  | .general expected => s!"General parsing error: {expected}"
  | .unclosedParenthesis => "Opening parenthesis without closing parenthesis"
  | .tooDeep => "Pattern too deeply nested"
  | .notRepeatable => "Target of repeat operator is invalid"
  | .trailingBackslash => "Backslash without following character"
  | .invalidEscape escape => s!"Invalid escape: {String.ofList escape}"
  | .unclosedProperty => "Unicode escape not closed"
  | .invalidHex => "Invalid hex escape"
  | .invalidCodePoint => "Invalid codepoint for hex or unicode escape"
  | .invalidClass => "Invalid character class"
  | .unknownFlag flag => s!"Unknown group flag: {String.ofList flag}"
  | .cannotDisableUnicode => "Disabling Unicode not supported"
  | .invalidReference => "Invalid back reference"
  | .invalidGroupName => "Could not parse group name"
  | .unknownGroupName name => s!"Invalid group name in back reference: {String.ofList name}"

/-- What is wrong with a pattern that can be read. -/
inductive MeaningFault where
  | variableLookBehind
  | invalidReference
  | mixedReferences
  | refusedPart
  | oversizedPart
  deriving BEq, DecidableEq, Inhabited, Repr

/-- The wording of a fault of meaning. -/
def MeaningFault.message : MeaningFault → String
  | .variableLookBehind => "Look-behind assertion without constant size"
  | .invalidReference => "Invalid back reference"
  | .mixedReferences =>
    "Numbered backref/call not allowed because named group was used, use a named backref instead"
  | .refusedPart => "Regex error: error parsing pattern 0"
  | .oversizedPart => "Regex error: error building NFA"

/-- Why a pattern cannot be used. -/
inductive ExpressionFault where
  | spelling (position : Nat) (fault : NotationFault)
  | meaning (fault : MeaningFault)
  deriving BEq, DecidableEq, Inhabited, Repr

/-- The wording of a fault of a pattern. -/
def ExpressionFault.message : ExpressionFault → String
  | .spelling position fault => s!"Parsing error at position {position}: {fault.message}"
  | .meaning fault => s!"Error compiling regex: {fault.message}"

end GrammarScan
