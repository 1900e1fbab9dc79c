import Scim.Json.Basic
import Scim.Text.CodePoint

/-!
# Reading JSON

The reader accepts the JSON grammar and nothing else: no comments, no trailing commas, no leading
zeros, no control characters inside strings, and no half of a surrogate pair on its own.  Values
nest at most 127 deep.  Of two members with one key the later wins.
-/

namespace Scim.Json

/-- Drops the blanks that JSON allows between its tokens. -/
def skipBlanks (cs : List Char) : List Char :=
  cs.dropWhile fun c => c = ' ' || c = '\n' || c = '\t' || c = '\r'

/-! ## Strings -/

/-- The value of four hexadecimal digits. -/
def hexQuad? (a b c d : Char) : Option Nat := do
  let a ← Text.hexDigit? a
  let b ← Text.hexDigit? b
  let c ← Text.hexDigit? c
  let d ← Text.hexDigit? d
  pure (((a * 16 + b) * 16 + c) * 16 + d)

/-- The character of a one letter escape. -/
def shortEscape? : Char → Option Char
  | '"' => some '"'
  | '\\' => some '\\'
  | '/' => some '/'
  | 'b' => some '\x08'
  | 'f' => some '\x0c'
  | 'n' => some '\n'
  | 'r' => some '\r'
  | 't' => some '\t'
  | _ => none

/-- The rest of a string behind its opening quote: the content and what follows the closing
quote. -/
def readString? : List Char → Option (List Char × List Char)
  | [] => none
  | '"' :: rest => some ([], rest)
  | '\\' :: 'u' :: a :: b :: c :: d :: '\\' :: 'u' :: e :: f :: g :: h :: rest => do
    let unit ← hexQuad? a b c d
    if 0xD800 ≤ unit ∧ unit < 0xDC00 then
      let low ← hexQuad? e f g h
      if 0xDC00 ≤ low ∧ low < 0xE000 then
        let (content, after) ← readString? rest
        pure (Char.ofNat (0x10000 + (unit - 0xD800) * 0x400 + (low - 0xDC00)) :: content, after)
      else none
    else if 0xDC00 ≤ unit ∧ unit < 0xE000 then none
    else
      let (content, after) ← readString? ('\\' :: 'u' :: e :: f :: g :: h :: rest)
      pure (Char.ofNat unit :: content, after)
  | '\\' :: 'u' :: a :: b :: c :: d :: rest => do
    let unit ← hexQuad? a b c d
    if 0xD800 ≤ unit ∧ unit < 0xE000 then none
    else
      let (content, after) ← readString? rest
      pure (Char.ofNat unit :: content, after)
  | '\\' :: c :: rest => do
    let c ← shortEscape? c
    let (content, after) ← readString? rest
    pure (c :: content, after)
  | c :: rest =>
    if c = '\\' ∨ c.toNat < 0x20 then none
    else do
      let (content, after) ← readString? rest
      pure (c :: content, after)
termination_by cs => cs.length

/-! ## Numbers -/

/-- An optional fraction: a point and at least one digit. -/
def readFraction? : List Char → Option (Option (List Char) × List Char)
  | '.' :: cs =>
    let (digits, rest) := Numeral.spanDigits cs
    if digits = [] then none else some (some digits, rest)
  | cs => some (none, cs)

/-- An optional exponent: `e`, an optional sign and at least one digit. -/
def readExponent? : List Char → Option (Option (Bool × List Char) × List Char)
  | c :: cs =>
    if c = 'e' ∨ c = 'E' then
      let (negative, body) := Numeral.sign cs
      let (digits, rest) := Numeral.spanDigits body
      if digits = [] then none else some (some (negative, digits), rest)
    else some (none, c :: cs)
  | [] => some (none, [])

/-- A number at the start of the text. -/
def readNumber? (cs : List Char) : Option (Number × List Char) := do
  let (negative, body) := match cs with
    | '-' :: rest => (true, rest)
    | _ => (false, cs)
  let (whole, rest) := Numeral.spanDigits body
  if whole = [] ∨ (whole.head? = some '0' ∧ 1 < whole.length) then none
  else
    let (fraction, rest) ← readFraction? rest
    let (exponent, rest) ← readExponent? rest
    match ← Numeral.document? negative whole fraction exponent with
    | .int n => pure (.int n, rest)
    | .float x => pure (.float x, rest)

/-! ## Values -/

/-- How deep values may nest. -/
def nestingLimit : Nat := 127

mutual

/-- A value at the start of the text, with room for `depth` more levels.  Every step reads at
least one character, so the length of the text bounds the steps. -/
def readValue? : Nat → Nat → List Char → Option (Json × List Char)
  | 0, _, _ => none
  | fuel + 1, depth, cs =>
    match skipBlanks cs with
    | 'n' :: 'u' :: 'l' :: 'l' :: rest => some (null, rest)
    | 't' :: 'r' :: 'u' :: 'e' :: rest => some (bool true, rest)
    | 'f' :: 'a' :: 'l' :: 's' :: 'e' :: rest => some (bool false, rest)
    | '"' :: rest => (readString? rest).map fun (s, rest) => (str (String.ofList s), rest)
    | '[' :: rest =>
      match depth with
      | 0 => none
      | depth + 1 =>
        match skipBlanks rest with
        | ']' :: rest => some (arr [], rest)
        | rest => (readItems? fuel depth rest).map fun (xs, rest) => (arr xs, rest)
    | '\x7b' :: rest =>
      match depth with
      | 0 => none
      | depth + 1 =>
        match skipBlanks rest with
        | '\x7d' :: rest => some (obj [], rest)
        | rest => (readMembers? fuel depth rest).map fun (ms, rest) => (ofPairs ms, rest)
    | rest => (readNumber? rest).map fun (n, rest) => (num n, rest)

/-- The items of an array up to its closing bracket. -/
def readItems? : Nat → Nat → List Char → Option (List Json × List Char)
  | 0, _, _ => none
  | fuel + 1, depth, cs => do
    let (x, rest) ← readValue? fuel depth cs
    match skipBlanks rest with
    | ']' :: rest => pure ([x], rest)
    | ',' :: rest =>
      let (xs, rest) ← readItems? fuel depth rest
      pure (x :: xs, rest)
    | _ => none

/-- The members of an object up to its closing brace, in the order of the text. -/
def readMembers? : Nat → Nat → List Char → Option (List (String × Json) × List Char)
  | 0, _, _ => none
  | fuel + 1, depth, cs =>
    match skipBlanks cs with
    | '"' :: rest => do
      let (key, rest) ← readString? rest
      match skipBlanks rest with
      | ':' :: rest =>
        let (x, rest) ← readValue? fuel depth rest
        match skipBlanks rest with
        | '\x7d' :: rest => pure ([(String.ofList key, x)], rest)
        | ',' :: rest =>
          let (xs, rest) ← readMembers? fuel depth rest
          pure ((String.ofList key, x) :: xs, rest)
        | _ => none
      | _ => none
    | _ => none

end

/-- The value of a whole text. -/
def ofText? (text : String) : Option Json :=
  let cs := text.toList
  match readValue? (2 * cs.length + 1) nestingLimit cs with
  | some (j, rest) => if skipBlanks rest = [] then some j else none
  | none => none

end Scim.Json
