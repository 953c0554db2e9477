import GrammarScan.Unicode.Age
import GrammarScan.Unicode.Script
import GrammarScan.Unicode.Segmentation

/-!
# Properties by name

Properties are asked for by a name, which is compared loosely: case, blanks, hyphens, underscores
and a leading `is` do not count. A bare name is a binary property, a general category or a script;
a name with a value asks for a general category, a script, a script with the characters it borrows,
the characters of a version and of all before it, or a value for cutting texts.
-/

namespace GrammarScan.Unicode

/-- A name reduced to what counts when names are compared. The category alias `isc` is the one
name whose `is` is part of it. -/
def looseName (name : List Char) : List Char :=
  let keep (s : List Char) : List Char :=
    (s.filter fun c => c ≠ ' ' && c ≠ '_' && c ≠ '-' && c.toNat ≤ 0x7F).map Char.toLower
  match name with
  | i :: s :: rest =>
    if i.toLower = 'i' && s.toLower = 's' then
      if keep rest = ['c'] then ['i', 's', 'c'] else keep rest
    else keep name
  | short => keep short

/-- Binary properties under their long and short names. -/
def binaryProperties : List (List String × CharSet) := [
  (["ASCII_Hex_Digit", "AHex"], asciiHexDigit),
  (["Alphabetic", "Alpha"], alphabetic),
  (["Bidi_Control", "Bidi_C"], bidiControl),
  (["Bidi_Mirrored", "Bidi_M"], bidiMirrored),
  (["Case_Ignorable", "CI"], caseIgnorable),
  (["Cased"], cased),
  (["Changes_When_Casefolded", "CWCF"], changesWhenCasefolded),
  (["Changes_When_Casemapped", "CWCM"], changesWhenCasemapped),
  (["Changes_When_Lowercased", "CWL"], changesWhenLowercased),
  (["Changes_When_Titlecased", "CWT"], changesWhenTitlecased),
  (["Changes_When_Uppercased", "CWU"], changesWhenUppercased),
  (["Dash"], dash),
  (["Default_Ignorable_Code_Point", "DI"], defaultIgnorableCodePoint),
  (["Deprecated", "Dep"], deprecatedCharacter),
  (["Diacritic", "Dia"], diacritic),
  (["Emoji"], emoji),
  (["Emoji_Component", "EComp"], emojiComponent),
  (["Emoji_Modifier", "EMod"], emojiModifier),
  (["Emoji_Modifier_Base", "EBase"], emojiModifierBase),
  (["Emoji_Presentation", "EPres"], emojiPresentation),
  (["Extended_Pictographic", "ExtPict"], extendedPictographic),
  (["Extender", "Ext"], extender),
  (["Grapheme_Base", "Gr_Base"], graphemeBase),
  (["Grapheme_Extend", "Gr_Ext"], graphemeExtend),
  (["Grapheme_Link", "Gr_Link"], graphemeLink),
  (["Hex_Digit", "Hex"], hexDigit),
  (["Hyphen"], hyphen),
  (["IDS_Binary_Operator", "IDSB"], idsBinaryOperator),
  (["IDS_Trinary_Operator", "IDST"], idsTrinaryOperator),
  (["IDS_Unary_Operator", "IDSU"], idsUnaryOperator),
  (["ID_Compat_Math_Continue"], idCompatMathContinue),
  (["ID_Compat_Math_Start"], idCompatMathStart),
  (["ID_Continue", "IDC"], idContinue),
  (["ID_Start", "IDS"], idStart),
  (["Ideographic", "Ideo"], ideographic),
  (["Join_Control", "Join_C"], joinControl),
  (["Logical_Order_Exception", "LOE"], logicalOrderException),
  (["Lowercase", "Lower"], lowercase),
  (["Math"], math),
  (["Modifier_Combining_Mark", "MCM"], modifierCombiningMark),
  (["Noncharacter_Code_Point", "NChar"], noncharacterCodePoint),
  (["Other_Alphabetic", "OAlpha"], otherAlphabetic),
  (["Other_Default_Ignorable_Code_Point", "ODI"], otherDefaultIgnorable),
  (["Other_Grapheme_Extend", "OGr_Ext"], otherGraphemeExtend),
  (["Other_ID_Continue", "OIDC"], otherIdContinue),
  (["Other_ID_Start", "OIDS"], otherIdStart),
  (["Other_Lowercase", "OLower"], otherLowercase),
  (["Other_Math", "OMath"], otherMath),
  (["Other_Uppercase", "OUpper"], otherUppercase),
  (["Pattern_Syntax", "Pat_Syn"], patternSyntax),
  (["Pattern_White_Space", "Pat_WS"], patternWhiteSpace),
  (["Prepended_Concatenation_Mark", "PCM"], prependedConcatenationMark),
  (["Quotation_Mark", "QMark"], quotationMark),
  (["Radical"], radical),
  (["Regional_Indicator", "RI"], regionalIndicator),
  (["Sentence_Terminal", "STerm"], sentenceTerminal),
  (["Soft_Dotted", "SD"], softDotted),
  (["Terminal_Punctuation", "Term"], terminalPunctuation),
  (["Unified_Ideograph", "UIdeo"], unifiedIdeograph),
  (["Uppercase", "Upper"], uppercase),
  (["Variation_Selector", "VS"], variationSelector),
  (["White_Space", "WSpace", "Space"], whiteSpace),
  (["XID_Continue", "XIDC"], xidContinue),
  (["XID_Start", "XIDS"], xidStart)]

/-- General categories and their groups under their long and short names, and the three sets
that are named like categories. -/
def generalCategories : List (List String × CharSet) := [
  (["Any"], .all),
  (["Assigned"], unassigned.negate),
  (["ASCII"], ⟨[(0, 0x7F)]⟩),
  (["Other", "C"], other),
  (["Control", "Cc", "Cntrl"], control),
  (["Format", "Cf"], format),
  (["Unassigned", "Cn"], unassigned),
  (["Private_Use", "Co"], privateUse),
  (["Letter", "L"], letter),
  (["Cased_Letter", "LC"], casedLetter),
  (["Lowercase_Letter", "Ll"], lowercaseLetter),
  (["Modifier_Letter", "Lm"], modifierLetter),
  (["Other_Letter", "Lo"], otherLetter),
  (["Titlecase_Letter", "Lt"], titlecaseLetter),
  (["Uppercase_Letter", "Lu"], uppercaseLetter),
  (["Mark", "M", "Combining_Mark"], mark),
  (["Spacing_Mark", "Mc"], spacingMark),
  (["Enclosing_Mark", "Me"], enclosingMark),
  (["Nonspacing_Mark", "Mn"], nonspacingMark),
  (["Number", "N"], number),
  (["Decimal_Number", "Nd", "Digit"], decimalNumber),
  (["Letter_Number", "Nl"], letterNumber),
  (["Other_Number", "No"], otherNumber),
  (["Punctuation", "P", "Punct"], punctuation),
  (["Connector_Punctuation", "Pc"], connectorPunctuation),
  (["Dash_Punctuation", "Pd"], dashPunctuation),
  (["Close_Punctuation", "Pe"], closePunctuation),
  (["Final_Punctuation", "Pf"], finalPunctuation),
  (["Initial_Punctuation", "Pi"], initialPunctuation),
  (["Other_Punctuation", "Po"], otherPunctuation),
  (["Open_Punctuation", "Ps"], openPunctuation),
  (["Symbol", "S"], symbol),
  (["Currency_Symbol", "Sc"], currencySymbol),
  (["Modifier_Symbol", "Sk"], modifierSymbol),
  (["Math_Symbol", "Sm"], mathSymbol),
  (["Other_Symbol", "So"], otherSymbol),
  (["Separator", "Z"], separator),
  (["Line_Separator", "Zl"], lineSeparator),
  (["Paragraph_Separator", "Zp"], paragraphSeparator),
  (["Space_Separator", "Zs"], spaceSeparator)]

/-- Whether a reduced name is one of the given names. -/
def isNamed (reduced : List Char) (names : List String) : Bool :=
  names.any fun n => looseName n.toList = reduced

/-- The set that a reduced name has in a table. -/
def named? (reduced : List Char) (table : List (List String × CharSet)) : Option CharSet :=
  (table.find? fun entry => isNamed reduced entry.1).map Prod.snd

/-- The script of a reduced name. -/
def script? (reduced : List Char) : Option Script :=
  scripts.find? fun s => isNamed reduced s.names

/-- All characters that some script borrows. -/
def shared : CharSet := .unions (scripts.map Script.borrowed)

/-- A script with the characters it borrows. What is borrowed by some script no longer belongs to
the two scripts of characters without a script of their own. -/
def Script.extended (s : Script) : CharSet :=
  if s.names.contains "Zyyy" || s.names.contains "Zinh" then s.characters.diff shared
  else s.characters.union s.borrowed

/-- The set asked for by a bare name: a binary property, a category or a script, in this order. -/
def propertyNamed? (name : List Char) : Option CharSet :=
  let reduced := looseName name
  named? reduced binaryProperties <|> named? reduced generalCategories <|>
    (script? reduced).map Script.characters

/-- The characters of a version and of all before it. -/
def upToVersion? (reduced : List Char) : Option CharSet :=
  (versions.findIdx? fun v => isNamed reduced v.names).map fun i =>
    .unions ((versions.take (i + 1)).map Version.added)

/-- The set asked for by a property and a value. -/
def propertyValue? (name value : List Char) : Option CharSet :=
  let property := looseName name
  let reduced := looseName value
  if isNamed property ["General_Category", "gc"] then named? reduced generalCategories
  else if isNamed property ["Script", "sc"] then (script? reduced).map Script.characters
  else if isNamed property ["Script_Extensions", "scx"] then (script? reduced).map Script.extended
  else if isNamed property ["Age"] then upToVersion? reduced
  else if isNamed property ["Grapheme_Cluster_Break", "GCB"] then named? reduced graphemeBreaks
  else if isNamed property ["Sentence_Break", "SB"] then named? reduced sentenceBreaks
  else if isNamed property ["Word_Break", "WB"] then named? reduced wordBreaks
  else none

end GrammarScan.Unicode
