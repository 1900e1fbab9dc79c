import Scim.Text.Ascii
import Scim.Text.CodePoint

/-!
# Blanks, strings and keys of configuration files

Comments run from `#` to the end of their line.  Strings stand in double quotes with escapes or in
single quotes without them; in three quotes they may go over several lines, of which the first is
dropped when it is empty.  Keys are words or strings on one line, joined by dots.
-/

namespace Scim.Toml

/-! ## Blanks and comments -/

/-- Drops spaces and tabs. -/
def skipSpaces (cs : List Char) : List Char :=
  cs.dropWhile fun c => c = ' ' || c = '\t'

/-- What follows a line break. -/
def lineBreak? : List Char → Option (List Char)
  | '\n' :: rest => some rest
  | '\r' :: '\n' :: rest => some rest
  | _ => none

/-- A character that may stand in a string or a comment. -/
def isTextChar (c : Char) : Bool :=
  (0x20 ≤ c.toNat && c.toNat != 0x7F) || c = '\t'

/-- Drops a comment. -/
def skipComment : List Char → List Char
  | '#' :: cs => cs.dropWhile isTextChar
  | cs => cs

/-- Reads the end of a line: blanks, a comment, and a line break or the end of the text. -/
def endOfLine? (cs : List Char) : Option (List Char) :=
  match skipComment (skipSpaces cs) with
  | [] => some []
  | rest => lineBreak? rest

/-- Drops blanks, comments and line breaks; `fuel` bounds the lines. -/
def skipLines : Nat → List Char → List Char
  | 0, cs => cs
  | fuel + 1, cs =>
    match endOfLine? cs with
    | some [] => []
    | some rest => skipLines fuel rest
    | none => skipSpaces cs

/-! ## Strings -/

/-- The character of some hexadecimal digits, and the rest. -/
def codePoint? (count : Nat) (cs : List Char) : Option (Char × List Char) :=
  if cs.length < count then none
  else ((Text.hexValue? (cs.take count)).bind Text.codePoint?).map (·, cs.drop count)

/-- The character of an escape and what follows it. -/
def escape? : List Char → Option (Char × List Char)
  | 'b' :: cs => some ('\x08', cs)
  | 't' :: cs => some ('\t', cs)
  | 'n' :: cs => some ('\n', cs)
  | 'f' :: cs => some ('\x0c', cs)
  | 'r' :: cs => some ('\r', cs)
  | '"' :: cs => some ('"', cs)
  | '\\' :: cs => some ('\\', cs)
  | 'u' :: cs => codePoint? 4 cs
  | 'U' :: cs => codePoint? 8 cs
  | _ => none

/-- Puts a character in front of the content of a string. -/
def prepend (c : Char) (read : List Char × List Char) : List Char × List Char :=
  (c :: read.1, read.2)

/-- The rest of a string with escapes, behind its opening quote; `fuel` bounds the characters. -/
def basicString? : Nat → List Char → Option (List Char × List Char)
  | 0, _ => none
  | _, [] => none
  | _ + 1, '"' :: rest => some ([], rest)
  | fuel + 1, '\\' :: rest =>
    (escape? rest).bind fun (c, rest) => (basicString? fuel rest).map (prepend c)
  | fuel + 1, c :: rest =>
    if isTextChar c then (basicString? fuel rest).map (prepend c) else none

/-- The rest of a string without escapes, behind its opening quote. -/
def literalString? : List Char → Option (List Char × List Char)
  | [] => none
  | '\'' :: rest => some ([], rest)
  | c :: rest => if isTextChar c then (literalString? rest).map (prepend c) else none

/-- Drops the blanks and line breaks behind a backslash at the end of a line. -/
def skipFolded (cs : List Char) : List Char :=
  cs.dropWhile fun c => c = ' ' || c = '\t' || c = '\n' || c = '\r'

/-- The rest of a string over several lines, behind its opening quotes.  One or two quotes belong
to it, also in front of the three that close it. -/
def blockString? (quote : Char) : Nat → List Char → Option (List Char × List Char)
  | 0, _ => none
  | _, [] => none
  | fuel + 1, c :: rest =>
    if c = quote then
      let quotes := (c :: rest).takeWhile (· == quote)
      let after := (c :: rest).drop quotes.length
      if quotes.length < 3 then
        (blockString? quote fuel after).map fun (content, rest) => (quotes ++ content, rest)
      else if quotes.length ≤ 5 then some (quotes.drop 3, after)
      else none
    else if c = '\\' ∧ quote = '"' then
      match lineBreak? (skipSpaces rest) with
      | some rest => blockString? quote fuel (skipFolded rest)
      | none => (escape? rest).bind fun (d, rest) => (blockString? quote fuel rest).map (prepend d)
    else
      match lineBreak? (c :: rest) with
      | some rest => (blockString? quote fuel rest).map (prepend '\n')
      | none => if isTextChar c then (blockString? quote fuel rest).map (prepend c) else none

/-- Drops a line break at the start of a string over several lines. -/
def dropFirstBreak (cs : List Char) : List Char :=
  (lineBreak? cs).getD cs

/-- A string at the start of the text. -/
def string? : List Char → Option (List Char × List Char)
  | '"' :: '"' :: '"' :: rest => blockString? '"' (rest.length + 1) (dropFirstBreak rest)
  | '\'' :: '\'' :: '\'' :: rest => blockString? '\'' (rest.length + 1) (dropFirstBreak rest)
  | '"' :: rest => basicString? (rest.length + 1) rest
  | '\'' :: rest => literalString? rest
  | _ => none

/-! ## Keys -/

/-- A character of a key without quotes. -/
def isKeyChar (c : Char) : Bool :=
  c.isAlphanum || c = '_' || c = '-'

/-- One part of a key. -/
def keyPart? (cs : List Char) : Option (String × List Char) :=
  match cs with
  | '"' :: rest =>
    (basicString? (rest.length + 1) rest).map fun (s, rest) => (String.ofList s, rest)
  | '\'' :: rest => (literalString? rest).map fun (s, rest) => (String.ofList s, rest)
  | _ =>
    let part := cs.takeWhile isKeyChar
    if part.isEmpty then none else some (String.ofList part, cs.dropWhile isKeyChar)

/-- The greatest depth of arrays, inline tables and dots in a key. -/
def depthLimit : Nat := 79

/-- A key of at most `fuel` parts. -/
def keyParts? : Nat → List Char → Option (List String × List Char)
  | 0, _ => none
  | fuel + 1, cs => do
    let (part, rest) ← keyPart? (skipSpaces cs)
    match skipSpaces rest with
    | '.' :: rest =>
      let (parts, rest) ← keyParts? fuel rest
      pure (part :: parts, rest)
    | rest => pure ([part], rest)

/-- A key of one or more parts. -/
def key? (cs : List Char) : Option (List String × List Char) :=
  keyParts? depthLimit cs

end Scim.Toml
