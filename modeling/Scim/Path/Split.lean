import Scim.Text.Ascii

/-!
# Splitting attribute paths

The segments of a path are separated by dots.  A dot inside brackets does not separate, and neither
does one inside a schema name: a segment that starts with `urn:` runs on over dots until it ends in
`:User`.  The colon behind a schema name stands for a dot.
-/

namespace Scim.Path

/-- What a schema name inside a path starts with. -/
def schemaStart : List Char := ['u', 'r', 'n', ':']

/-- What a schema name inside a path ends with. -/
def schemaEnd : List Char := [':', 'U', 's', 'e', 'r']

/-! ## The colon behind a schema name -/

/-- Whether an attribute may start here: not at the end, at a dot or at a bracket. -/
def startsAttribute : List Char → Bool
  | [] => false
  | c :: _ => c != '.' && c != '['

/-- Writes a dot for the last colon that stands between `:User` and an attribute, if there is
one. -/
def dotLastColon? : List Char → Option (List Char)
  | [] => none
  | c :: cs =>
    match dotLastColon? cs with
    | some changed => some (c :: changed)
    | none =>
      match Text.dropWord? (schemaEnd ++ [':']) (c :: cs) with
      | some rest => if startsAttribute rest then some (schemaEnd ++ '.' :: rest) else none
      | none => none

/-- Brings a path that starts with a schema name into its dotted form.  At least one character
stands between `urn:` and the end of the name. -/
def normalizeChars (cs : List Char) : List Char :=
  match Text.dropWord? schemaStart cs with
  | some (c :: rest) =>
    match dotLastColon? rest with
    | some changed => schemaStart ++ c :: changed
    | none => cs
  | _ => cs

/-- Brings a path that starts with a schema name into its dotted form. -/
def normalize (path : String) : String :=
  String.ofList (normalizeChars path.toList)

/-! ## Segments -/

/-- Splits on, where `current` is the reversed beginning of a segment, `depth` counts its open
brackets, and `inSchema` tells whether a schema name is open. -/
def splitFrom (current : List Char) (depth : Nat) (inSchema : Bool) :
    List Char → List (List Char)
  | [] => if current.isEmpty then [] else [current.reverse]
  | c :: cs =>
    let inSchema := inSchema || (current.isEmpty && schemaStart.isPrefixOf (c :: cs))
    if c = '[' then splitFrom (c :: current) (depth + 1) inSchema cs
    else if c = ']' then splitFrom (c :: current) (depth - 1) inSchema cs
    else if c = '.' ∧ depth = 0 ∧ inSchema = false then
      current.reverse :: splitFrom [] depth inSchema cs
    else
      splitFrom (c :: current) depth
        (inSchema && !(schemaEnd.reverse.isPrefixOf (c :: current))) cs

/-- The segments of a path, as characters.  A dot at the end of a path opens no segment. -/
def splitChars (cs : List Char) : List (List Char) :=
  splitFrom [] 0 false cs

/-- The segments of a path. -/
def split (path : String) : List String :=
  (splitChars path.toList).map String.ofList

end Scim.Path
