import Scim.Pattern.Escape

/-!
# Sets in brackets

A set in brackets has characters, ranges, classes and sets in brackets as members.  The operators
`&&`, `--` and `~~` take the members on their two sides, from the left, and all bind equally.
Hyphens in front and a closing bracket behind them stand for themselves.  A caret in front takes
the complement.
-/

namespace Scim.Pattern

/-- An operator on sets. -/
inductive SetOperator where
  | inter
  | diff
  | symmDiff
deriving DecidableEq, Repr

/-- A set with the depth to which its brackets nest. -/
structure SetPart where
  set : Text.CharSet
  depth : Nat := 0

/-- The depth of a row of parts: a single part stands for itself. -/
def rowDepth : List Nat → Nat
  | [] => 0
  | [d] => d
  | ds => ds.foldl Nat.max 0 + 1

/-- An open bracket: whether the complement is taken, what is to the left of the last operator
with that operator, and the members behind it, the last one first. -/
structure Bracket where
  negated : Bool
  left : Option (SetPart × SetOperator) := none
  members : List SetPart := []

namespace Bracket

/-- Appends a member. -/
def push (b : Bracket) (part : SetPart) : Bracket :=
  { b with members := part :: b.members }

/-- The members behind the last operator as one set. -/
def row (b : Bracket) : SetPart :=
  { set := .unions (b.members.reverse.map SetPart.set)
    depth := rowDepth (b.members.map SetPart.depth) }

/-- What the last operator makes of its two sides. -/
def operand (b : Bracket) : SetPart :=
  match b.left with
  | none => b.row
  | some (left, operator) =>
    let right := b.row
    { set := match operator with
        | .inter => .inter left.set right.set
        | .diff => .diff left.set right.set
        | .symmDiff => .symmDiff left.set right.set
      depth := Nat.max left.depth right.depth + 1 }

/-- The bracket behind an operator. -/
def operate (b : Bracket) (operator : SetOperator) : Bracket :=
  { negated := b.negated, left := some (b.operand, operator) }

/-- The set of a closed bracket. -/
def close? (f : Flags) (b : Bracket) : Option SetPart :=
  (f.polarize? b.negated b.operand.set).map fun s => ⟨s, b.operand.depth + 1⟩

end Bracket

/-! ## Members -/

/-- The ranges of a class of ASCII. -/
def asciiClass? (name : List Char) : Option (List (Nat × Nat)) :=
  match String.ofList name with
  | "alnum" => some [(0x30, 0x39), (0x41, 0x5A), (0x61, 0x7A)]
  | "alpha" => some [(0x41, 0x5A), (0x61, 0x7A)]
  | "ascii" => some [(0, 0x7F)]
  | "blank" => some [(9, 9), (0x20, 0x20)]
  | "cntrl" => some [(0, 0x1F), (0x7F, 0x7F)]
  | "digit" => some [(0x30, 0x39)]
  | "graph" => some [(0x21, 0x7E)]
  | "lower" => some [(0x61, 0x7A)]
  | "print" => some [(0x20, 0x7E)]
  | "punct" => some [(0x21, 0x2F), (0x3A, 0x40), (0x5B, 0x60), (0x7B, 0x7E)]
  | "space" => some [(9, 13), (0x20, 0x20)]
  | "upper" => some [(0x41, 0x5A)]
  | "word" => some [(0x30, 0x39), (0x41, 0x5A), (0x5F, 0x5F), (0x61, 0x7A)]
  | "xdigit" => some [(0x30, 0x39), (0x41, 0x46), (0x61, 0x66)]
  | _ => none

/-- A class of ASCII behind its opening bracket: whether it is negated, its ranges, and the
rest. -/
def namedClass? (cs : List Char) : Option (Bool × List (Nat × Nat) × List Char) :=
  match cs with
  | ':' :: cs =>
    let (negated, cs) := match cs with
      | '^' :: cs => (true, cs)
      | cs => (false, cs)
    match cs.dropWhile (· != ':') with
    | ':' :: ']' :: rest =>
      (asciiClass? (cs.takeWhile (· != ':'))).map fun ranges => (negated, ranges, rest)
    | _ => none
  | _ => none

/-- The next sign of a set: a backslash starts an escape, any other character stands for
itself. -/
def member? (f : Flags) : List Char → Option (Sign × List Char)
  | [] => none
  | c :: rest => if c = '\\' then escape? f rest else some (.char c, rest)

/-- The range from one character to another.  Without `unicode` both are characters of ASCII. -/
def range? (f : Flags) (first last : Char) : Option SetPart :=
  if last < first ∨ (!f.unicode ∧ 0x80 ≤ last.toNat) then none
  else some { set := f.members [(first.toNat, last.toNat)] }

/-- The character that decides whether a hyphen stands for itself: the one behind it, blanks and
one sign of a comment apart where they do not count. -/
def behindHyphen? (f : Flags) (cs : List Char) : Option Char :=
  if f.spaced then
    match cs.dropWhile Text.isBlank with
    | '#' :: rest => (rest.dropWhile Text.isBlank).head?
    | rest => rest.head?
  else cs.head?

/-- A member of a set that is not a set itself, or a range, and the rest. -/
def memberOrRange? (f : Flags) (cs : List Char) : Option (SetPart × List Char) :=
  (member? f cs).bind fun (sign, rest) =>
    let rest := f.skip rest
    let single := match sign with
      | .char c => (range? f c c).map (·, rest)
      | .set s => some ({ set := s }, rest)
      | .anchor _ => none
    match rest with
    | [] => none
    | c :: behind =>
      let next := behindHyphen? f behind
      if c != '-' || next == some ']' || next == some '-' then single
      else (member? f (f.skip behind)).bind fun
        | (.char last, rest) =>
          match sign with
          | .char first => (range? f first last).map (·, rest)
          | _ => none
        | _ => none

/-! ## Brackets -/

/-- The set that a hyphen or a closing bracket in front stands for. -/
def frontMember (f : Flags) (c : Char) : SetPart :=
  { set := f.members [(c.toNat, c.toNat)] }

/-- Takes the hyphens in front as members; each step takes a character. -/
def takeHyphens (f : Flags) : Nat → Bracket → List Char → Bracket × List Char
  | fuel + 1, b, '-' :: cs => takeHyphens f fuel (b.push (frontMember f '-')) (f.skip cs)
  | _, b, cs => (b, cs)

/-- Opens a bracket: the caret and the members in front that stand for themselves. -/
def openBracket (f : Flags) (cs : List Char) : Bracket × List Char :=
  let (negated, cs) := match f.skip cs with
    | '^' :: cs => (true, f.skip cs)
    | cs => (false, cs)
  match takeHyphens f cs.length { negated } cs with
  | (b, ']' :: cs) =>
    if b.members.isEmpty then (b.push (frontMember f ']'), f.skip cs) else (b, ']' :: cs)
  | opened => opened

/-- The set in brackets, from inside of the open ones.  Each step takes a character, so `fuel` may
be the number of characters. -/
def bracketFrom? (f : Flags) : Nat → Bracket → List Bracket → List Char →
    Option (SetPart × List Char)
  | 0, _, _, _ => none
  | fuel + 1, b, outer, cs =>
    match f.skip cs with
    | [] => none
    | '[' :: rest =>
      match namedClass? rest with
      | some (negated, ranges, rest) =>
        (f.polarize? negated (f.members ranges)).bind fun s =>
          bracketFrom? f fuel (b.push { set := s }) outer rest
      | none =>
        let (inner, rest) := openBracket f rest
        bracketFrom? f fuel inner (b :: outer) rest
    | ']' :: rest =>
      (b.close? f).bind fun part =>
        match outer with
        | [] => some (part, rest)
        | around :: outer => bracketFrom? f fuel (around.push part) outer rest
    | '&' :: '&' :: rest => bracketFrom? f fuel (b.operate .inter) outer rest
    | '-' :: '-' :: rest => bracketFrom? f fuel (b.operate .diff) outer rest
    | '~' :: '~' :: rest => bracketFrom? f fuel (b.operate .symmDiff) outer rest
    | cs =>
      (memberOrRange? f cs).bind fun (part, rest) => bracketFrom? f fuel (b.push part) outer rest

/-- The set behind an opening bracket, and the rest. -/
def bracket? (f : Flags) (cs : List Char) : Option (SetPart × List Char) :=
  let (b, rest) := openBracket f cs
  bracketFrom? f (rest.length + 1) b [] rest

end Scim.Pattern
