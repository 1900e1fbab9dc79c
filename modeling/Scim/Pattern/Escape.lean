import Scim.Pattern.Flags
import Scim.Text.Blank
import Scim.Text.CodePoint
import Scim.Text.Property.Lookup

/-!
# Escapes in patterns

A backslash starts a sign: a character by itself, by its letter or by its code point, a class of
characters, or a condition on a position.  Every other escape is refused.  Where blanks and
comments do not count, they may also stand between the parts of a sign.
-/

namespace Scim.Pattern

/-- What a sign of a pattern stands for. -/
inductive Sign where
  | char (c : Char)
  | set (s : Text.CharSet)
  | anchor (a : Anchor)
deriving DecidableEq, Repr

/-! ## Blanks and comments -/

/-- Drops blanks and comments, which run from `#` to the end of their line. -/
def skipSpaces (inComment : Bool) : List Char → List Char
  | [] => []
  | c :: cs =>
    if inComment then skipSpaces (c != '\n') cs
    else if Text.isBlank c then skipSpaces false cs
    else if c = '#' then skipSpaces true cs
    else c :: cs

/-- Drops what does not count under the flags. -/
def Flags.skip (f : Flags) (cs : List Char) : List Char :=
  if f.spaced then skipSpaces false cs else cs

theorem length_skipSpaces_le (inComment : Bool) (cs : List Char) :
    (skipSpaces inComment cs).length ≤ cs.length := by
  induction cs generalizing inComment with
  | nil => exact Nat.le_refl 0
  | cons c cs ih =>
    unfold skipSpaces
    split
    · exact Nat.le_succ_of_le (ih _)
    · split
      · exact Nat.le_succ_of_le (ih _)
      · split
        · exact Nat.le_succ_of_le (ih _)
        · exact Nat.le_refl _

theorem Flags.length_skip_le (f : Flags) (cs : List Char) : (f.skip cs).length ≤ cs.length := by
  unfold Flags.skip
  split
  · exact length_skipSpaces_le false cs
  · exact Nat.le_refl _

/-! ## Parts of signs -/

/-- The content of braces behind the opening one, and the rest.  Each step takes a character, so
`fuel` may be the number of characters. -/
def braced? (f : Flags) : Nat → List Char → Option (List Char × List Char)
  | 0, _ => none
  | fuel + 1, cs =>
    match f.skip cs with
    | [] => none
    | c :: rest =>
      if c = '\x7d' then some ([], rest)
      else (braced? f fuel rest).map fun (content, rest) => (c :: content, rest)

/-- A number of hexadecimal digits, and the rest. -/
def hexDigits? (f : Flags) : Nat → List Char → Option (List Char × List Char)
  | 0, cs => some ([], cs)
  | count + 1, cs =>
    match f.skip cs with
    | [] => none
    | c :: rest => (hexDigits? f count rest).map fun (digits, rest) => (c :: digits, rest)

/-- The character of a code point behind `\x`, `\u` or `\U`: a fixed number of digits, or any
number of them in braces.  Without `unicode` two digits stand for a byte, which has to be a
character of ASCII. -/
def codePoint? (f : Flags) (count : Nat) (cs : List Char) : Option (Char × List Char) :=
  match f.skip cs with
  | '\x7b' :: rest =>
    (braced? f (rest.length + 1) rest).bind fun (digits, rest) =>
      if digits.isEmpty then none
      else ((Text.hexValue? digits).bind Text.codePoint?).map (·, rest)
  | cs =>
    (hexDigits? f count cs).bind fun (digits, rest) =>
      ((Text.hexValue? digits).bind Text.codePoint?).bind fun c =>
        if count = 2 ∧ !f.unicode ∧ 0x80 ≤ c.toNat then none else some (c, rest)

/-- Cuts a text at the first place of a separator. -/
def cutAt? (separator : List Char) : List Char → Option (List Char × List Char)
  | [] => none
  | c :: cs =>
    if separator.isPrefixOf (c :: cs) then some ([], (c :: cs).drop separator.length)
    else (cutAt? separator cs).map fun (before, after) => (c :: before, after)

/-- The set of a property by its name, or by a name and a value behind `!=`, `:` or `=`. -/
def propertySet? (name : List Char) : Option Text.CharSet :=
  match (cutAt? ['!', '='] name).or ((cutAt? [':'] name).or (cutAt? ['='] name)) with
  | some (name, value) => Text.propertyValueSet? name value
  | none => Text.propertySet? name

/-- The set of a property behind `\p` or `\P`: one letter, or a name in braces. -/
def property? (f : Flags) (negated : Bool) (cs : List Char) :
    Option (Text.CharSet × List Char) :=
  let named := match f.skip cs with
    | [] => none
    | c :: rest =>
      if c = '\x7b' then braced? f (rest.length + 1) rest
      else if c = '\\' then none
      else some ([c], rest)
  named.bind fun (name, rest) =>
    if !f.unicode then none
    else (propertySet? name).bind fun s =>
      (f.polarize? negated (if f.caseless then .caseless f.caseRule s else s)).map (·, rest)

/-- The condition behind `\b`: a border of words, or the part of one that a name in braces asks
for.  Braces that do not start with a letter or a hyphen are left for a repetition. -/
def wordBorder? (f : Flags) (cs : List Char) : Option (Anchor × List Char) :=
  match cs with
  | '\x7b' :: rest =>
    match f.skip rest with
    | [] => none
    | c :: _ =>
      if c.isAlpha ∨ c = '-' then
        (braced? f (rest.length + 1) rest).bind fun (name, rest) =>
          match String.ofList name with
          | "start" => some (.wordStart f.words, rest)
          | "end" => some (.wordEnd f.words, rest)
          | "start-half" => some (.noWordBefore f.words, rest)
          | "end-half" => some (.noWordAfter f.words, rest)
          | _ => none
      else some (.wordEdge f.words, cs)
  | _ => some (.wordEdge f.words, cs)

/-! ## Signs -/

/-- ASCII characters other than letters, digits and angle brackets may be escaped to stand for
themselves. -/
def isEscapable (c : Char) : Bool :=
  c.toNat < 0x80 && !c.isAlphanum && c != '<' && c != '>'

/-- The character that an escaped letter stands for. -/
def letterChar? : Char → Option Char
  | 'n' => some '\n'
  | 'r' => some '\r'
  | 't' => some '\t'
  | 'f' => some '\x0c'
  | 'v' => some '\x0b'
  | 'a' => some '\x07'
  | _ => none

/-- The class that an escaped letter stands for; a capital stands for the complement. -/
def letterSet? (f : Flags) : Char → Option Text.CharSet
  | 'd' => some f.digits
  | 's' => some f.blanks
  | 'w' => some f.words
  | 'D' => f.complement? f.digits
  | 'S' => f.complement? f.blanks
  | 'W' => f.complement? f.words
  | _ => none

/-- The condition that an escaped letter or angle bracket stands for. -/
def letterAnchor? (f : Flags) : Char → Option Anchor
  | 'A' => some .textStart
  | 'z' => some .textEnd
  | 'B' => some (.noWordEdge f.words)
  | '<' => some (.wordStart f.words)
  | '>' => some (.wordEnd f.words)
  | _ => none

/-- The sign behind a backslash, and the rest. -/
def escape? (f : Flags) : List Char → Option (Sign × List Char)
  | [] => none
  | c :: rest =>
    if isEscapable c then some (.char c, rest)
    else if c = 'x' then (codePoint? f 2 rest).map fun (d, rest) => (.char d, rest)
    else if c = 'u' then (codePoint? f 4 rest).map fun (d, rest) => (.char d, rest)
    else if c = 'U' then (codePoint? f 8 rest).map fun (d, rest) => (.char d, rest)
    else if c = 'p' ∨ c = 'P' then
      (property? f (c == 'P') rest).map fun (s, rest) => (.set s, rest)
    else if c = 'b' then (wordBorder? f rest).map fun (a, rest) => (.anchor a, rest)
    else match letterChar? c, letterAnchor? f c, letterSet? f c with
      | some d, _, _ => some (.char d, rest)
      | none, some a, _ => some (.anchor a, rest)
      | none, none, some s => some (.set s, rest)
      | none, none, none => none

end Scim.Pattern
