/-
  Text in quotes, for descriptions of settings.

  Quotes and backslashes get a backslash; line ends, tabs and the zero character have short escapes;
  a character that would not be seen is written as its code point in braces.

  * `Text.quoted s`: a text in double quotes.
  * `Text.quotedChar c`: a character in single quotes.
-/
import ExitBridge.Bytes.Hex
import ExitBridge.Text.Unprinted

namespace ExitBridge.Text

/-- The code point of a character in braces. -/
def pointEscape (c : Char) : List Char :=
  ['\\', 'u', '\x7b'] ++ Hex.ofNat c.toNat ++ ['\x7d']

/-- One character between quotes of a kind. -/
def escape (quote c : Char) : List Char :=
  if c = '\x00' then ['\\', '0']
  else if c = '\t' then ['\\', 't']
  else if c = '\r' then ['\\', 'r']
  else if c = '\n' then ['\\', 'n']
  else if c = '\\' ∨ c = quote then ['\\', c]
  else if isUnprinted c.toNat then pointEscape c
  else [c]

/-- A text in double quotes. -/
def quoted (s : String) : String :=
  String.ofList ('"' :: s.toList.flatMap (escape '"') ++ ['"'])

/-- A character in single quotes. -/
def quotedChar (c : Char) : String :=
  String.ofList ('\'' :: escape '\'' c ++ ['\''])

end ExitBridge.Text
