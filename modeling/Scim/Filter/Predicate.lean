import Scim.Filter.Basic
import Scim.Json.Basic
import Scim.Text.Blank

/-!
# Predicates

A filter compiles to a predicate on documents that no longer depends on how it was written.
Comparisons with `eq` take the value their operand denotes, those with `co` and `sw` take a pattern
in which every character of the operand stands for itself.  What was missing matches nothing.
-/

namespace Scim

/-- A predicate on documents.  Paths are separated by dots; patterns ignore case unless they say
otherwise. -/
inductive Predicate where
  | all
  | nothing
  | present (path : String)
  | equals (path : String) (value : Json)
  | pattern (path : String) (pattern : String)
  | and (parts : List Predicate)
  | or (parts : List Predicate)
deriving Inhabited

/-! ## The value of an operand -/

/-- The bound below which an integral number is kept as an integer. -/
def integerBound : Nat := maxInt64 + 1

/-- The number that a text denotes: integral values below `2 ^ 63` in magnitude become integers. -/
def numberOfText? (text : String) : Option Number :=
  (Numeral.free? text).map fun x =>
    match x.toInt? with
    | some n => if n.natAbs < integerBound then .int n else .float x
    | none => .float x

/-- The value that the operand of `eq` denotes: a boolean in any case, a number that blanks may
surround, or else the text itself. -/
def operandValue (text : String) : Json :=
  if Text.eqIgnoreAsciiCase text "true" then .bool true
  else if Text.eqIgnoreAsciiCase text "false" then .bool false
  else match numberOfText? (Text.trimmed text) with
    | some n => .num n
    | none => .str text

/-! ## Patterns that match a text literally -/

/-- A character that has a meaning of its own in patterns. -/
def isPatternSign (c : Char) : Bool :=
  c ∈ ['.', '*', '+', '?', '^', '$', '\x7b', '\x7d', '(', ')', '|', '[', ']', '\\']

/-- The pattern that matches a text literally, as characters. -/
def escapeChars (cs : List Char) : List Char :=
  cs.flatMap fun c => if isPatternSign c then ['\\', c] else [c]

/-- The pattern that matches a text literally. -/
def escapePattern (text : String) : String :=
  String.ofList (escapeChars text.toList)

/-! ## Compilation -/

namespace Filter

/-- The predicate of a comparison with a value. -/
def comparePredicate (path : String) (comparison : Comparison) (value : String) : Predicate :=
  match comparison with
  | .equal => .equals path (operandValue value)
  | .contains => .pattern path (escapePattern value)
  | .startsWith => .pattern path ("^" ++ escapePattern value)

/-- The predicate of a filter. -/
def compile : Filter → Predicate
  | present path => .present path
  | compare path comparison (some value) => comparePredicate path comparison value
  | compare _ _ none => .nothing
  | and left right => .and [left.compile, right.compile]
  | or left right => .or [left.compile, right.compile]
  | missing => .nothing

end Filter

namespace Predicate

/-- The predicate of a filter text.  An absent or blank text matches every document. -/
def ofText (text : Option String) : Predicate :=
  match text.bind Filter.ofText? with
  | some filter => filter.compile
  | none => .all

/-! ## Query documents -/

/-- An object with one member. -/
def field (path : String) (condition : Json) : Json :=
  .obj [(path, condition)]

mutual

/-- The predicate in the syntax of a document store. -/
def query : Predicate → Json
  | all => .obj []
  | nothing => field "_id" (field "$exists" (.bool false))
  | present path => field path (field "$exists" (.bool true))
  | equals path value => field path value
  | pattern path p => field path (.obj [("$options", .str "i"), ("$regex", .str p)])
  | and parts => field "$and" (.arr (queries parts))
  | or parts => field "$or" (.arr (queries parts))

/-- The query documents of the parts. -/
def queries : List Predicate → List Json
  | [] => []
  | p :: ps => query p :: queries ps

end

end Predicate

end Scim
