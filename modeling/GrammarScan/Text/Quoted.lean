import GrammarScan.Unicode.Word

/-!
# Quoted text in messages

Messages show a text between double quotes. The quote, the backslash, tabs and line ends are
escaped by a letter; characters that join the one before them or have no shape of their own are
given by their code point in lower-case hexadecimal digits.
-/

namespace GrammarScan

/-- A code point between braces after a backslash and `u`. -/
def codeEscape (c : Char) : List Char :=
  ['\\', 'u', '\x7b'] ++ Nat.toDigits 16 c.toNat ++ ['\x7d']

/-- One character of a quoted text. -/
def quoteChar (c : Char) : List Char :=
  if c = '\x00' then ['\\', '0']
  else if c = '\t' then ['\\', 't']
  else if c = '\r' then ['\\', 'r']
  else if c = '\n' then ['\\', 'n']
  else if c = '\"' then ['\\', '\"']
  else if c = '\\' then ['\\', '\\']
  else if Unicode.standsAlone c then [c]
  else codeEscape c

/-- A text between double quotes. -/
def quote (s : List Char) : String := String.ofList ('\"' :: s.flatMap quoteChar ++ ['\"'])

end GrammarScan
