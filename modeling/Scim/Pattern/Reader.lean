import Scim.Pattern.Bracket
import Scim.Pattern.Weight
import Scim.Number.Power

/-!
# Reading patterns

A pattern text is read from the left with the open groups on a stack.  Each group has its flags,
its finished alternatives and the items behind the last bar.  A text with an open or superfluous
parenthesis, a repetition of nothing, an open set, an unknown escape or flag, or a condition on
what lies around a match is no pattern, and neither is one that nests too deep or weighs too much.
-/

namespace Scim.Pattern

/-! ## Repetitions -/

/-- How often an item is repeated: a least number, and a greatest one if there is one. -/
structure Times where
  least : Nat
  most : Option Nat
deriving DecidableEq, Repr

/-- The decimal digits in front, and the rest; each step takes a character. -/
def decimalDigits (f : Flags) : Nat → List Char → List Char × List Char
  | fuel + 1, c :: cs =>
    if c.isDigit then
      let (digits, rest) := decimalDigits f fuel (f.skip cs)
      (c :: digits, rest)
    else ([], c :: cs)
  | _, cs => ([], cs)

/-- A number with blanks around it, if there are digits, and the rest. -/
def decimal? (f : Flags) (cs : List Char) : Option Nat × List Char :=
  let cs := cs.dropWhile Text.isBlank
  let (digits, rest) := decimalDigits f cs.length cs
  let value := digits.foldl (fun n c => 10 * n + (c.toNat - '0'.toNat)) 0
  (if digits.isEmpty ∨ maxWord32 < value then none else some value,
    rest.dropWhile Text.isBlank)

/-- The closing brace of a counted repetition. -/
def closeBrace? (times : Times) : List Char → Option (Times × List Char)
  | '\x7d' :: rest => some (times, rest)
  | _ => none

/-- A counted repetition behind its opening brace. -/
def counted? (f : Flags) (cs : List Char) : Option (Times × List Char) :=
  match decimal? f (f.skip cs) with
  | (none, _) => none
  | (some least, ',' :: rest) =>
    match f.skip rest with
    | '\x7d' :: rest => some (⟨least, none⟩, rest)
    | rest =>
      match decimal? f rest with
      | (some most, rest) => if most < least then none else closeBrace? ⟨least, some most⟩ rest
      | (none, _) => none
  | (some least, rest) => closeBrace? ⟨least, some least⟩ rest

/-- A mark behind a repetition asks for the shortest match, which does not change whether there is
one. -/
def dropLazyMark : List Char → List Char
  | '?' :: rest => rest
  | rest => rest

/-- The repetition that a text starts with, without its mark, and the rest. -/
def times? (f : Flags) : List Char → Option (Times × List Char)
  | '*' :: rest => some (⟨0, none⟩, dropLazyMark rest)
  | '+' :: rest => some (⟨1, none⟩, dropLazyMark rest)
  | '?' :: rest => some (⟨0, some 1⟩, dropLazyMark rest)
  | '\x7b' :: rest => (counted? f rest).map fun (times, rest) => (times, dropLazyMark (f.skip rest))
  | _ => none

/-! ## Groups -/

/-- What an opening parenthesis starts: a group, which may have a name, or a change of flags. -/
inductive Opening where
  | group (flags : Flags) (name : Option (List Char))
  | change (flags : Flags)

/-- Whether a character may stand in the name of a group. -/
def isNameChar (first : Bool) (c : Char) : Bool :=
  c == '_' || (if first then Text.isLetter c
    else c == '.' || c == '[' || c == ']' || Text.isLetterOrDigit c)

/-- The name of a group up to its angle bracket, and the rest. -/
def groupName? (cs : List Char) : Option (List Char × List Char) :=
  let name := cs.takeWhile (· != '>')
  match name, cs.dropWhile (· != '>') with
  | c :: others, _ :: rest =>
    if isNameChar true c && others.all (isNameChar false) then some (name, rest) else none
  | _, _ => none

/-- The flags between a question mark and the colon of a group or the end of a change of flags.
No letter and no hyphen may stand twice, and a hyphen not at the end. -/
def flagsFrom? (f : Flags) (value : Bool) (seen : List Char) : List Char →
    Option (Opening × List Char)
  | [] => none
  | ':' :: rest => if seen.head? = some '-' then none else some (.group f none, rest)
  | ')' :: rest =>
    if seen.isEmpty ∨ seen.head? = some '-' then none else some (.change f, rest)
  | c :: rest =>
    if seen.contains c then none
    else if c = '-' then flagsFrom? f false ('-' :: seen) rest
    else (f.assign? c value).bind fun f => flagsFrom? f value (c :: seen) rest

/-- What is behind an opening parenthesis. -/
def opening? (f : Flags) (cs : List Char) : Option (Opening × List Char) :=
  match f.skip cs with
  | '?' :: '=' :: _ | '?' :: '!' :: _ | '?' :: '<' :: '=' :: _ | '?' :: '<' :: '!' :: _ => none
  | '?' :: 'P' :: '<' :: rest | '?' :: '<' :: rest =>
    (groupName? rest).map fun (name, rest) => (.group f (some name), rest)
  | '?' :: rest => flagsFrom? f true [] rest
  | rest => some (.group f none, rest)

/-! ## Items and groups -/

/-- A part of a pattern, the depth to which it nests, and whether it may be repeated. -/
structure Item where
  pattern : Pattern
  depth : Nat := 0
  isRepeatable : Bool := true

/-- An open group: its flags, the alternatives before the last bar, and the items behind it, the
last one first in both. -/
structure Level where
  flags : Flags
  alternatives : List Item := []
  items : List Item := []

namespace Level

/-- Appends an item. -/
def push (l : Level) (item : Item) : Level :=
  { l with items := item :: l.items }

/-- The items behind the last bar in sequence. -/
def sequence (l : Level) : Item :=
  { pattern := match l.items with
      | [] => .empty
      | last :: before => before.foldl (fun p item => .seq item.pattern p) last.pattern
    depth := rowDepth (l.items.map Item.depth) }

/-- The level behind a bar. -/
def bar (l : Level) : Level :=
  { l with alternatives := l.sequence :: l.alternatives, items := [] }

/-- The alternatives of a finished group. -/
def close (l : Level) : Item :=
  { pattern := l.alternatives.foldl (fun p item => .alt item.pattern p) l.sequence.pattern
    depth := rowDepth ((l.sequence :: l.alternatives).map Item.depth) }

/-- Repeats the last item. -/
def repeatLast? (l : Level) (times : Times) : Option Level :=
  match l.items with
  | [] => none
  | item :: items =>
    if item.isRepeatable then
      some { l with items :=
        { pattern := .repeated item.pattern times.least times.most, depth := item.depth + 1 }
          :: items }
    else none

/-- Opens what a parenthesis starts; `names` are the names of groups so far. -/
def open? (l : Level) (names : List (List Char)) : Opening →
    Option (Option Level × Level × List (List Char))
  | .change flags =>
    some (none, { l.push { pattern := .empty, isRepeatable := false } with flags }, names)
  | .group flags none => some (some l, { flags }, names)
  | .group flags (some name) =>
    if names.contains name then none else some (some l, { flags }, name :: names)

end Level

/-! ## Texts -/

/-- A sign as an item.  A literal stands for its case variants where case does not count. -/
def Sign.item (f : Flags) : Sign → Item
  | .char c => { pattern := .literal f.caseRule c }
  | .set s => { pattern := .set s }
  | .anchor a => { pattern := .anchor a }

/-- The single item that a text starts with, and the rest. -/
def item? (f : Flags) : List Char → Option (Item × List Char)
  | [] => none
  | c :: rest =>
    if c = '\\' then (escape? f rest).map fun (sign, rest) => (sign.item f, rest)
    else if c = '[' then
      (bracket? f rest).map fun (part, rest) =>
        ({ pattern := .set part.set, depth := part.depth }, rest)
    else if c = '.' then f.dot?.map fun s => ((Sign.set s).item f, rest)
    else if c = '^' then some ((Sign.anchor f.caret).item f, rest)
    else if c = '$' then some ((Sign.anchor f.dollar).item f, rest)
    else some ((Sign.char c).item f, rest)

/-- Whether a character starts a repetition. -/
def isTimesSign (c : Char) : Bool :=
  c == '*' || c == '+' || c == '?' || c == '\x7b'

/-- Reads on inside of a level, with the levels around it and the names of groups so far.  Each
step takes a character, so `fuel` may be the number of characters. -/
def readFrom? : Nat → List (List Char) → Level → List Level → List Char → Option Item
  | 0, _, _, _, _ => none
  | fuel + 1, names, level, outer, cs =>
    match level.flags.skip cs with
    | [] => if outer.isEmpty then some level.close else none
    | c :: rest =>
      if c = '(' then
        (opening? level.flags rest).bind fun (opening, rest) =>
          (level.open? names opening).bind fun (around, level, names) =>
            readFrom? fuel names level (around.toList ++ outer) rest
      else if c = ')' then
        match outer with
        | [] => none
        | around :: outer =>
          let group := level.close
          readFrom? fuel names (around.push { group with depth := group.depth + 1 }) outer rest
      else if c = '|' then readFrom? fuel names level.bar outer rest
      else if isTimesSign c then
        (times? level.flags (c :: rest)).bind fun (times, rest) =>
          (level.repeatLast? times).bind fun level => readFrom? fuel names level outer rest
      else
        (item? level.flags (c :: rest)).bind fun (item, rest) =>
          readFrom? fuel names (level.push item) outer rest

/-- The depth beyond which a pattern is refused. -/
def depthLimit : Nat := 250

/-- The pattern that a text spells, of any weight. -/
def read? (text : String) : Option Pattern :=
  (readFrom? (text.toList.length + 1) [] { flags := {} } [] text.toList).bind fun item =>
    if item.depth ≤ depthLimit then some item.pattern else none

/-- The pattern that a text spells. -/
def ofText? (text : String) : Option Pattern :=
  (read? text).bind fun p => if p.weight ≤ weightLimit then some p else none

end Scim.Pattern
