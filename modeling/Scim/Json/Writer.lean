import Scim.Json.Basic

/-!
# Writing JSON

Compact text has no blanks; indented text puts each item and member on a line of its own, two
blanks deeper than what holds it, and writes empty arrays and objects as `[]` and `\x7b\x7d`.
-/

namespace Scim.Json

/-! ## Strings -/

/-- The escape of a control character without a short form. -/
def controlEscape (n : Nat) : List Char :=
  ['\\', 'u', '0', '0', Nat.digitChar (n / 16), Nat.digitChar (n % 16)]

/-- The written form of a character inside a string. -/
def escapeChar (c : Char) : List Char :=
  if c = '"' then ['\\', '"']
  else if c = '\\' then ['\\', '\\']
  else if c = '\n' then ['\\', 'n']
  else if c = '\r' then ['\\', 'r']
  else if c = '\t' then ['\\', 't']
  else if c = '\x08' then ['\\', 'b']
  else if c = '\x0c' then ['\\', 'f']
  else if c.toNat < 0x20 then controlEscape c.toNat
  else [c]

/-- A string in quotes. -/
def quote (s : String) : String :=
  String.ofList ('"' :: s.toList.flatMap escapeChar ++ ['"'])

/-! ## Compact text -/

mutual

/-- The compact text of a value. -/
def compact : Json → String
  | null => "null"
  | bool b => if b then "true" else "false"
  | num n => n.text
  | str s => quote s
  | arr items => "[" ++ ",".intercalate (compactItems items) ++ "]"
  | obj members => "\x7b" ++ ",".intercalate (compactMembers members) ++ "\x7d"

/-- The compact texts of the items. -/
def compactItems : List Json → List String
  | [] => []
  | x :: xs => compact x :: compactItems xs

/-- The compact texts of the members. -/
def compactMembers : List (String × Json) → List String
  | [] => []
  | (k, x) :: xs => (quote k ++ ":" ++ compact x) :: compactMembers xs

end

/-! ## Indented text -/

/-- A line break and `depth` steps of indentation. -/
def lineBreak (depth : Nat) : String :=
  "\n" ++ String.ofList (List.replicate (2 * depth) ' ')

/-- Parts on lines of their own between two brackets. -/
def bracketed (left right : String) (depth : Nat) (parts : List String) : String :=
  if parts.isEmpty then left ++ right
  else left ++ lineBreak (depth + 1) ++ ("," ++ lineBreak (depth + 1)).intercalate parts
    ++ lineBreak depth ++ right

mutual

/-- The indented text of a value that stands `depth` steps deep. -/
def indentedAt (depth : Nat) : Json → String
  | arr items => bracketed "[" "]" depth (indentedItems (depth + 1) items)
  | obj members => bracketed "\x7b" "\x7d" depth (indentedMembers (depth + 1) members)
  | j => compact j

/-- The indented texts of the items. -/
def indentedItems (depth : Nat) : List Json → List String
  | [] => []
  | x :: xs => indentedAt depth x :: indentedItems depth xs

/-- The indented texts of the members. -/
def indentedMembers (depth : Nat) : List (String × Json) → List String
  | [] => []
  | (k, x) :: xs => (quote k ++ ": " ++ indentedAt depth x) :: indentedMembers depth xs

end

/-- The indented text of a document. -/
def indented (j : Json) : String :=
  indentedAt 0 j

end Scim.Json
