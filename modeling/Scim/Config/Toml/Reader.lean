import Scim.Config.Toml.Scalar
import Scim.Config.Toml.Table
import Scim.Config.Toml.Text

/-!
# Reading configuration files

Configuration files are written in TOML.  The text is read into lines, each of which is the header
of a table or a key with its value, and the lines are put together from the first to the last.
-/

namespace Scim.Toml

/-- A line of a document. -/
inductive Line where
  | header (isArray : Bool) (path : List String)
  | entry (path : List String) (value : Json)

/-! ## Values -/

/-- A character of a word: a number or a boolean. -/
def isWordChar (c : Char) : Bool :=
  c.isAlphanum || c = '_' || c = '-' || c = '+' || c = '.'

/-- A date, a time or a word at the start of the text. -/
def scalar? (cs : List Char) : Option (Json × List Char) :=
  (momentValue? cs).or
    ((wordValue? (cs.takeWhile isWordChar)).map fun j => (j, cs.dropWhile isWordChar))

mutual

/-- A value at the start of the text, within `depth` more levels.  Every step reads at least one
character, so the length of the text bounds the steps. -/
def value? : Nat → Nat → List Char → Option (Json × List Char)
  | 0, _, _ => none
  | fuel + 1, depth, cs =>
    match cs with
    | [] => none
    | c :: rest =>
      if c = '"' ∨ c = '\'' then
        (string? cs).map fun (s, rest) => (.str (String.ofList s), rest)
      else if c = '[' then
        if depth = 0 then none
        else (items? fuel (depth - 1) rest).map fun (xs, rest) => (.arr xs, rest)
      else if c = '\x7b' then
        if depth = 0 then none
        else
          match skipSpaces rest with
          | '\x7d' :: rest => some (.obj [], rest)
          | rest =>
            (inline? fuel (depth - 1) [] rest).map fun (entries, rest) =>
              (.ofPairs (entriesToJson entries), rest)
      else scalar? cs

/-- The items of an array up to its closing bracket; a comma may follow the last one. -/
def items? : Nat → Nat → List Char → Option (List Json × List Char)
  | 0, _, _ => none
  | fuel + 1, depth, cs =>
    match skipLines cs.length cs with
    | ']' :: rest => some ([], rest)
    | cs => do
      let (x, rest) ← value? fuel depth cs
      match skipLines rest.length rest with
      | ']' :: rest => pure ([x], rest)
      | ',' :: rest =>
        let (xs, rest) ← items? fuel depth rest
        pure (x :: xs, rest)
      | _ => none

/-- The entries of an inline table up to its closing brace. -/
def inline? : Nat → Nat → Entries → List Char → Option (Entries × List Char)
  | 0, _, _, _ => none
  | fuel + 1, depth, entries, cs => do
    let (path, rest) ← key? cs
    match rest with
    | '=' :: rest =>
      let (j, rest) ← value? fuel depth (skipSpaces rest)
      let entries ← setIn path j entries
      match skipSpaces rest with
      | '\x7d' :: rest => pure (entries, rest)
      | ',' :: rest => inline? fuel depth entries rest
      | _ => none
    | _ => none

end

/-! ## Lines -/

/-- The rest of a header behind its opening brackets. -/
def header? (isArray : Bool) (cs : List Char) : Option (Line × List Char) := do
  let (path, rest) ← key? cs
  match isArray, rest with
  | true, ']' :: ']' :: rest => pure (.header true path, ← endOfLine? rest)
  | false, ']' :: rest => pure (.header false path, ← endOfLine? rest)
  | _, _ => none

/-- A line at the start of the text. -/
def line? (cs : List Char) : Option (Line × List Char) :=
  match cs with
  | '[' :: '[' :: rest => header? true rest
  | '[' :: rest => header? false rest
  | _ => do
    let (path, rest) ← key? cs
    match rest with
    | '=' :: rest =>
      let rest := skipSpaces rest
      let (j, rest) ← value? (2 * rest.length + 1) depthLimit rest
      pure (.entry path j, ← endOfLine? rest)
    | _ => none

/-- The lines of a document; `fuel` bounds their number. -/
def lines? : Nat → List Char → Option (List Line)
  | 0, _ => none
  | fuel + 1, cs =>
    match skipLines cs.length cs with
    | [] => some []
    | cs => do
      let (line, rest) ← line? cs
      let lines ← lines? fuel rest
      pure (line :: lines)

/-! ## Documents -/

/-- Adds lines to the entries of a document, with the path of the open table. -/
def build? : List String → Entries → List Line → Option Entries
  | _, entries, [] => some entries
  | _, entries, .header isArray path :: lines => do
    build? path (← openIn isArray path entries) lines
  | header, entries, .entry path j :: lines => do
    build? header (← setBelow header path j entries) lines

/-- A text without the mark of its byte order. -/
def dropByteOrderMark : List Char → List Char
  | '\uFEFF' :: cs => cs
  | cs => cs

/-- The value of a whole document. -/
def ofText? (text : String) : Option Json := do
  let cs := dropByteOrderMark text.toList
  let lines ← lines? (cs.length + 1) cs
  let entries ← build? [] [] lines
  pure (.ofPairs (entriesToJson entries))

end Scim.Toml
