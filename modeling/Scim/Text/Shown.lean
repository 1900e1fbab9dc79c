import Scim.Text.PrintTable

/-!
# Texts shown in messages

A text inside a message stands in double quotes.  Quotes, backslashes and the usual blanks are
escaped by letters, and characters without a shape of their own by their code points in braces.
-/

namespace Scim.Text

/-- The hexadecimal digits of a number. -/
def hex (n : Nat) : List Char :=
  Nat.toDigits 16 n

/-- The shown form of a character. -/
def showChar (c : Char) : List Char :=
  if c = '"' then ['\\', '"']
  else if c = '\\' then ['\\', '\\']
  else if c = '\n' then ['\\', 'n']
  else if c = '\r' then ['\\', 'r']
  else if c = '\t' then ['\\', 't']
  else if c = '\x00' then ['\\', '0']
  else if inRanges shapelessRanges c.toNat then
    ['\\', 'u', '\x7b'] ++ hex c.toNat ++ ['\x7d']
  else [c]

/-- The shown form of a text. -/
def shown (s : String) : String :=
  String.ofList ('"' :: s.toList.flatMap showChar ++ ['"'])

end Scim.Text
